import GatewayControl.Toml.Document

/-!
Reading records from TOML values. A record is a table with a key for each field, or an array with
the fields in order; keys that name no field, and items after the last field, are passed over.
-/

namespace GatewayControl.Toml.Value

def text? : Value → Option String
  | text value => some value
  | _ => none

def boolean? : Value → Option Bool
  | boolean value => some value
  | _ => none

def natural? : Value → Option Nat
  | integer (.ofNat value) => some value
  | _ => none

def array? : Value → Option (List Value)
  | array items => some items
  | _ => none

def table? : Value → Option Table
  | table entries => some entries
  | _ => none

def field? (position : Nat) (name : String) : Value → Option (Option Value)
  | table entries => some (Table.find? name entries)
  | array items => some items[position]?
  | _ => none

def required (record : Value) (position : Nat) (name : String) (read : Value → Option α) :
    Option α := do
  read (← ← record.field? position name)

def member? (record : Value) (position : Nat) (name : String) (read : Value → Option α) :
    Option (Option α) := do
  match ← record.field? position name with
  | none => return none
  | some value => return some (← read value)

def memberOr (record : Value) (default : α) (position : Nat) (name : String)
    (read : Value → Option α) : Option α := do
  return (← record.member? position name read).getD default

/-- A case without contents: its name, or a table from its name to something empty. -/
def case? : Value → Option String
  | text name => some name
  | table [(name, table [])] | table [(name, array [])] => some name
  | _ => none

/-- A case with contents: a table from its name to them. -/
def caseWith? : Value → Option (String × Value)
  | table [(name, contents)] => some (name, contents)
  | _ => none

def hasOnly (names : List String) : Value → Bool
  | table entries => entries.all fun (name, _) => names.contains name
  | _ => true

end GatewayControl.Toml.Value
