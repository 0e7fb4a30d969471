set_option autoImplicit false

namespace Formulary.Decimal

/-- The quotient rounded to the nearest integer, a half to the even neighbour. -/
def roundDiv (num den : Nat) : Nat :=
  let quotient := num / den
  let twice := 2 * (num % den)
  if twice < den then quotient
  else if den < twice then quotient + 1
  else quotient + quotient % 2

-- The exponent `e` with `2 ^ e ≤ num / den < 2 ^ (e + 1)`.
def floorLog2 (num den : Nat) : Int :=
  let e : Int := (num.log2 : Int) - den.log2
  if den * Nat.pow 2 e.toNat ≤ num * Nat.pow 2 (-e).toNat then e else e - 1

def infinityBits : Nat := 0x7FF0000000000000

def fullBits : Nat := 0x10000000000000

def unitExponent (num den : Nat) : Int := max (floorLog2 num den - 52) (-1074)

/-- A significand that rounds up to a power of two carries into the exponent field, and the largest
exponent carries into infinity. -/
def nearestBits (num den : Nat) : Nat :=
  if num = 0 then 0
  else
    let q := unitExponent num den
    min infinityBits
      ((q + 1074).toNat * fullBits +
        roundDiv (num * Nat.pow 2 (-q).toNat) (den * Nat.pow 2 q.toNat))

def significand (bits : Nat) : Nat × Int :=
  let field : Nat := bits / fullBits
  let fraction : Nat := bits % fullBits
  if field = 0 then (fraction, -1074) else (fraction + fullBits, (field : Int) - 1075)

def ratio (bits : Nat) : Nat × Nat :=
  let (m, q) := significand bits
  (m * Nat.pow 2 q.toNat, Nat.pow 2 (-q).toNat)

def signBit : Nat := 0x8000000000000000

def isNegative (x : Float) : Bool := signBit ≤ x.toBits.toNat

def magnitudeBits (x : Float) : Nat := x.toBits.toNat % signBit

def ofSignedBits (negative : Bool) (bits : Nat) : Float :=
  Float.ofBits (UInt64.ofNat (if negative then signBit + bits else bits))

end Formulary.Decimal
