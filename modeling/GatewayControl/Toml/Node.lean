import GatewayControl.Toml.Value

/-!
Tables while a document is read. How a table came to be decides what may still be added to it: a
table with a header of its own takes no second header, one that a dotted key made takes only dotted
keys, and a written value takes nothing.
-/

namespace GatewayControl.Toml

inductive Origin
  /-- Opened by a header of its own, or the document itself. -/
  | header
  /-- Passed through by the path of a header. -/
  | passage
  /-- Made by a dotted key. -/
  | dotted
deriving DecidableEq, Repr

inductive Node
  | closed (value : Value)
  | table (origin : Origin) (entries : List (String × Node))
  | tables (elements : List (List (String × Node)))

abbrev Entries := List (String × Node)

namespace Entries

def find? (name : String) : Entries → Option Node
  | [] => none
  | (other, node) :: rest => if name = other then some node else find? name rest

def put (name : String) (node : Node) : Entries → Entries
  | [] => [(name, node)]
  | (other, previous) :: rest =>
    if name = other then (name, node) :: rest else (other, previous) :: put name node rest

def changeLast (change : Entries → Option Entries) : List Entries → Option (List Entries)
  | [] => none
  | [last] => (change last).map fun changed => [changed]
  | element :: elements => (changeLast change elements).map (element :: ·)

/-- Adds a value under a key. Only the last part of a dotted key may be new in a table that dotted
keys did not make. -/
def addPair (value : Value) : List String → Entries → Option Entries
  | [], _ => none
  | [name], entries =>
    match find? name entries with
    | none => some (entries ++ [(name, .closed value)])
    | some _ => none
  | name :: next :: rest, entries =>
    match find? name entries with
    | none => do
      return entries ++ [(name, .table .dotted (← addPair value (next :: rest) []))]
    | some (.table .dotted inner) => do
      return put name (.table .dotted (← addPair value (next :: rest) inner)) entries
    | some (.table .passage inner) => do
      guard (!rest.isEmpty)
      return put name (.table .passage (← addPair value (next :: rest) inner)) entries
    | some (.tables elements) => do
      guard (!rest.isEmpty)
      return put name (.tables (← changeLast (addPair value (next :: rest)) elements)) entries
    | some (.table .header _) | some (.closed _) => none

/-- Changes the table at a path, in the last element of each array of tables on the way. -/
def within (change : Entries → Option Entries) : List String → Entries → Option Entries
  | [], entries => change entries
  | name :: rest, entries =>
    match find? name entries with
    | none => do
      return entries ++ [(name, .table .passage (← within change rest []))]
    | some (.table origin inner) => do
      return put name (.table origin (← within change rest inner)) entries
    | some (.tables elements) => do
      return put name (.tables (← changeLast (within change rest) elements)) entries
    | some (.closed _) => none

def openTable (name : String) (entries : Entries) : Option Entries :=
  match find? name entries with
  | none => some (entries ++ [(name, .table .header [])])
  | some (.table .passage inner) => some (put name (.table .header inner) entries)
  | some _ => none

def openElement (name : String) (entries : Entries) : Option Entries :=
  match find? name entries with
  | none => some (entries ++ [(name, .tables [[]])])
  | some (.tables elements) => some (put name (.tables (elements ++ [[]])) entries)
  | some _ => none

end Entries

mutual

def Node.value : Node → Value
  | .closed value => value
  | .table _ entries => .table (tableOf entries)
  | .tables elements => .array (tablesOf elements)

def tableOf : List (String × Node) → Table
  | [] => []
  | (name, node) :: rest => (name, node.value) :: tableOf rest

def tablesOf : List (List (String × Node)) → List Value
  | [] => []
  | element :: elements => .table (tableOf element) :: tablesOf elements

end

def inlineTable? (pairs : List (List String × Value)) : Option Table := do
  let entries ← pairs.foldlM (fun entries (key, value) => Entries.addPair value key entries) []
  return tableOf entries

end GatewayControl.Toml
