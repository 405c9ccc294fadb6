/-!
Values of TOML documents. A document is a table; a table lists its keys in the order in which they
were first written, each of them once.
-/

namespace GatewayControl.Toml

inductive Value
  | text (value : String)
  | integer (value : Int)
  | boolean (value : Bool)
  /-- A float, a date or a time. Nothing that is stored has such a value, so they are not told apart
  any further. -/
  | other
  | array (items : List Value)
  | table (entries : List (String × Value))
deriving Inhabited

abbrev Table := List (String × Value)

namespace Value

def isTable : Value → Bool
  | table _ => true
  | _ => false

end Value

namespace Table

def find? (name : String) : Table → Option Value
  | [] => none
  | (other, value) :: rest => if name = other then some value else find? name rest

end Table

def maxInteger : Nat := 0x7fffffffffffffff

def readErrorMessage : String := "<toml error>"

inductive WriteFault
  | integerOutOfRange
deriving DecidableEq, Repr

def WriteFault.message : WriteFault → String
  | integerOutOfRange => "out-of-range value for u64 type"

def Value.ofNat (number : Nat) : Except WriteFault Value :=
  if number ≤ maxInteger then .ok (.integer number) else .error .integerOutOfRange

end GatewayControl.Toml
