/-!
Reading numbers from digits.
-/

namespace GatewayControl.Text

def digitValue (char : Char) : Option Nat :=
  if '0' ≤ char && char ≤ '9' then some (char.toNat - '0'.toNat)
  else if 'a' ≤ char && char ≤ 'f' then some (char.toNat - 'a'.toNat + 10)
  else if 'A' ≤ char && char ≤ 'F' then some (char.toNat - 'A'.toNat + 10)
  else none

def isDigitOf (base : Nat) (char : Char) : Bool :=
  match digitValue char with
  | some value => value < base
  | none => false

def digitsValue (base : Nat) (digits : List Char) : Nat :=
  digits.foldl (fun value digit => value * base + (digitValue digit).getD 0) 0

def readDigits (base : Nat) (digits : List Char) : Option Nat :=
  if !digits.isEmpty && digits.all (isDigitOf base) then some (digitsValue base digits) else none

end GatewayControl.Text
