import Formulary.Decimal.Shortest

set_option autoImplicit false

namespace Formulary

structure Places where
  whole : List Char
  fraction : List Char
deriving Repr, DecidableEq

namespace Places

def ofCoefficient (coefficient count : Nat) : Places :=
  let ds := Decimal.digits coefficient
  let ds := List.replicate (count + 1 - ds.length) '0' ++ ds
  ⟨ds.take (ds.length - count), ds.drop (ds.length - count)⟩

def withoutZeros (p : Places) : Places :=
  { p with fraction := (p.fraction.reverse.dropWhile (· = '0')).reverse }

def text (keepsPoint : Bool) (p : Places) : List Char :=
  if p.fraction = [] ∧ keepsPoint = false then p.whole else p.whole ++ '.' :: p.fraction

end Places

namespace Decimal

def fixed (num den count : Nat) : Places :=
  Places.ofCoefficient (roundDiv (num * Nat.pow 10 count) den) count

def leadingDigits (num den count : Nat) : Nat × Int :=
  if num = 0 then (0, 0)
  else
    let first := pointOf num den - 1
    let last := first - count
    let rounded := roundDiv (scaleUp num (-last)) (scaleUp den last)
    if rounded = Nat.pow 10 (count + 1) then (Nat.pow 10 count, first + 1) else (rounded, first)

def truncate? (x : Float) : Option Int :=
  if x.isNaN || x.isInf then none
  else
    let (num, den) := ratio (magnitudeBits x)
    some (if isNegative x then -(num / den : Nat) else (num / den : Nat))

end Decimal

end Formulary
