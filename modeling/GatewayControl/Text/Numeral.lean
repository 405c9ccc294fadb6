/-!
Decimal numerals, and which of them a 64-bit float cannot hold.
-/

namespace GatewayControl

/-- A decimal numeral: its sign, its digits without the point, and the power of ten by which the
digits are scaled. -/
structure Numeral where
  negative : Bool
  significand : Nat
  scale : Int
deriving DecidableEq, Repr

/-- The least magnitude that rounds to infinity in a 64-bit float: halfway between the largest
finite float and the next power of two. -/
def Numeral.overflowBound : Nat := Nat.pow 2 1024 - Nat.pow 2 970

/-- Whether the numeral is too large for a 64-bit float. The number of digits before the point
settles all numerals but those of 309 digits, so no large power is computed for the others. -/
def Numeral.overflows (numeral : Numeral) : Bool :=
  if numeral.significand = 0 then false
  else
    let magnitude : Int := (Nat.toDigits 10 numeral.significand).length + numeral.scale
    if magnitude < 309 then false
    else if magnitude > 309 then true
    else if numeral.scale ≥ 0 then
      numeral.significand * Nat.pow 10 numeral.scale.toNat ≥ Numeral.overflowBound
    else
      numeral.significand ≥ Numeral.overflowBound * Nat.pow 10 (-numeral.scale).toNat

end GatewayControl
