import Formulary.Decimal.Nearest

set_option autoImplicit false

namespace Formulary

/-- The number `coefficient * 10 ^ exponent`, with a sign that zero keeps. -/
structure Decimal where
  negative : Bool
  coefficient : Nat
  exponent : Int
deriving Repr, DecidableEq

namespace Decimal

def digits (n : Nat) : List Char := Nat.toDigits 10 n

def digitCount (n : Nat) : Nat := (digits n).length

def point (d : Decimal) : Int := d.exponent + digitCount d.coefficient

-- Doubles end below `10 ^ 309`, and nothing below `10 ^ -324` is nearer to one than to zero.
def magnitude (d : Decimal) : Nat :=
  if d.coefficient = 0 then 0
  else if 310 < d.point then infinityBits
  else if d.point < -330 then 0
  else nearestBits (d.coefficient * Nat.pow 10 d.exponent.toNat) (Nat.pow 10 (-d.exponent).toNat)

def toFloat (d : Decimal) : Float := ofSignedBits d.negative d.magnitude

def ofInt (n : Int) : Decimal := ⟨n < 0, n.natAbs, 0⟩

def floatOfInt? (n : Int) : Option Float :=
  let x := (ofInt n).toFloat
  if x.isInf then none else some x

end Decimal

end Formulary
