import Formulary.Decimal.Basic

set_option autoImplicit false

namespace Formulary.Decimal

-- The place `p` of the point with `10 ^ (p - 1) ≤ num / den < 10 ^ p`.
def pointOf (num den : Nat) : Int :=
  if den ≤ num then digitCount (num / den)
  else
    let d := digitCount (den / num)
    if den ≤ num * Nat.pow 10 (d - 1) then 2 - (d : Int) else 1 - (d : Int)

def scaleUp (n : Nat) (exponent : Int) : Nat := n * Nat.pow 10 exponent.toNat

-- Of the two neighbours on the grid of step `10 ^ k`, those that read back; of two the nearer,
-- and the even one at a tie.
def neighbour? (bits num den : Nat) (k : Int) : Option Nat :=
  let scaledNum := scaleUp num (-k)
  let scaledDen := scaleUp den k
  let below := scaledNum / scaledDen
  let twice := 2 * (scaledNum % scaledDen)
  let readsBack (c : Nat) : Bool := Decimal.magnitude ⟨false, c, k⟩ == bits
  match readsBack below, readsBack (below + 1) with
  | true, false => some below
  | false, true => some (below + 1)
  | true, true =>
      if twice < scaledDen then some below
      else if scaledDen < twice then some (below + 1)
      else some (below + below % 2)
  | false, false => none

-- Tries grids of more and more digits; what no short grid holds is written out exactly.
def shortestFrom (bits num den : Nat) (point : Int) : Nat → Nat → Decimal
  | 0, _ =>
      let (m, q) := significand bits
      if q < 0 then ⟨false, m * Nat.pow 5 (-q).toNat, q⟩ else ⟨false, m * Nat.pow 2 q.toNat, 0⟩
  | tries + 1, count =>
      match neighbour? bits num den (point - count) with
      | some c => ⟨false, c, point - count⟩
      | none => shortestFrom bits num den point tries (count + 1)

def stripZeros : Nat → Decimal → Decimal
  | 0, d => d
  | fuel + 1, d =>
      if d.coefficient ≠ 0 ∧ d.coefficient % 10 = 0 then
        stripZeros fuel { d with coefficient := d.coefficient / 10, exponent := d.exponent + 1 }
      else d

/-- The shortest decimal that reads back as the double with these bits, nearest if several do. -/
def shortest (bits : Nat) : Decimal :=
  let (num, den) := ratio bits
  let d := shortestFrom bits num den (pointOf num den) 17 1
  stripZeros (digitCount d.coefficient) d

def ofFloat (x : Float) : Decimal :=
  { shortest (magnitudeBits x) with negative := isNegative x }

end Formulary.Decimal
