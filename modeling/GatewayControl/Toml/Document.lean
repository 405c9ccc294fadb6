import GatewayControl.Toml.Statement

/-!
TOML documents: building a table from the statements of a text, and writing a table out.

A table is written with the values of its own first and its tables after them, each table under a
header with its full path. A table that holds only tables has no header, since theirs name it.
-/

namespace GatewayControl.Toml

/-- A document being read: its tables, and the path of the table that is open. -/
structure Draft where
  path : List String := []
  entries : Entries := []

def Draft.add (draft : Draft) : Statement → Option Draft
  | .table path => do
    let name ← path.getLast?
    let entries ← Entries.within (Entries.openTable name) path.dropLast draft.entries
    return { path, entries }
  | .element path => do
    let name ← path.getLast?
    let entries ← Entries.within (Entries.openElement name) path.dropLast draft.entries
    return { path, entries }
  | .pair key value => do
    let entries ← Entries.within (Entries.addPair value key) draft.path draft.entries
    return { draft with entries }

def tableOfStatements (statements : List Statement) : Option Table := do
  let draft ← statements.foldlM Draft.add {}
  return tableOf draft.entries

def read (text : String) : Option Table :=
  Parser.whole statements text >>= tableOfStatements

theorem read_eq (text : String) : read text = Parser.whole statements text >>= tableOfStatements := rfl

-- Nothing that reads documents is to be unfolded down to their grammar.
attribute [irreducible] read

def joinKeys (path : List String) : List Char :=
  ['.'].intercalate (path.map renderKey)

mutual

def Value.render : Value → List Char
  | .text value => renderText value
  | .integer value => (toString value).toList
  | .boolean value => (toString value).toList
  | .other => "nan".toList
  | .array items => ['['] ++ renderItems items ++ [']']
  | .table entries => ['\x7b'] ++ renderPairs entries ++ ['\x7d']

def renderItems : List Value → List Char
  | [] => []
  | [item] => item.render
  | item :: items => item.render ++ [',', ' '] ++ renderItems items

def renderPairs : List (String × Value) → List Char
  | [] => []
  | [(name, value)] => [' '] ++ renderKey name ++ [' ', '=', ' '] ++ value.render ++ [' ']
  | (name, value) :: pairs =>
    [' '] ++ renderKey name ++ [' ', '=', ' '] ++ value.render ++ [','] ++ renderPairs pairs

end

def Statement.render : Statement → List Char
  | .table path => ['['] ++ joinKeys path ++ [']']
  | .element path => ['[', '['] ++ joinKeys path ++ [']', ']']
  | .pair key value => joinKeys key ++ [' ', '=', ' '] ++ value.render

def Statement.isHeader : Statement → Bool
  | .table _ | .element _ => true
  | .pair _ _ => false

/-- Whether a value is written under headers of its own. -/
def Value.hasHeaders : Value → Bool
  | .table _ => true
  | .array items => !items.isEmpty && items.all Value.isTable
  | _ => false

def ownPairs (entries : Table) : List Statement :=
  entries.filterMap fun (name, value) =>
    if value.hasHeaders then none else some (.pair [name] value)

mutual

def Value.statements (path : List String) : Value → List Statement
  | .table entries =>
    (if (ownPairs entries).isEmpty && !entries.isEmpty then [] else [.table path]) ++
      ownPairs entries ++ nestedStatements path entries
  | .array items => elementStatements path items
  | _ => []

def nestedStatements (path : List String) : List (String × Value) → List Statement
  | [] => []
  | (name, value) :: entries =>
    value.statements (path ++ [name]) ++ nestedStatements path entries

def elementStatements (path : List String) : List Value → List Statement
  | [] => []
  | .table entries :: items =>
    .element path :: ownPairs entries ++ nestedStatements path entries ++
      elementStatements path items
  | _ :: items => elementStatements path items

end

def Table.statements (table : Table) : List Statement :=
  ownPairs table ++ nestedStatements [] table

/-- Statements on lines of their own, with an empty line before each header but the first line. -/
def renderStatements : Bool → List Statement → List Char
  | _, [] => []
  | first, statement :: statements =>
    (if statement.isHeader && !first then ['\n'] else []) ++ statement.render ++ ['\n'] ++
      renderStatements false statements

def write (table : Table) : String :=
  String.ofList (renderStatements true table.statements)

end GatewayControl.Toml
