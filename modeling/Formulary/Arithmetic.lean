import Formulary.Data.Entries
import Formulary.Decimal.Free

set_option autoImplicit false

namespace Formulary.Arithmetic

def read (cs : List Char) : Except Fault Float :=
  match Numeral.freeFloat? (String.ofList cs) with
  | some x => .ok x
  | none => .error .notNumeral

def leading (text : String) : Except Fault Float :=
  match Numeral.front? text with
  | some cs => read cs
  | none => .ok Numeral.notANumber

def divide (x y : Float) : Except Fault Float :=
  if y == 0.0 then .error .dividedByZero else .ok (x / y)

-- Finite numbers have to have a finite power.
def raise (x y : Float) : Except Fault Float :=
  let z := Float.pow x y
  if z.isFinite || !x.isFinite || !y.isFinite then .ok z
  else if z.isNaN || x == 0.0 then .error .outOfDomain
  else .error .outOfRange

def isOdd (x : Float) : Bool := (Decimal.intOfFloat? x).any (· % 2 == 1)

/-- A sum so far, and what rounding has taken from it. -/
structure Running where
  sum : Float
  lost : Float

namespace Running

def add (r : Running) (x : Float) : Running :=
  let sum := r.sum + x
  let error := if x.abs ≤ r.sum.abs then (r.sum - sum) + x else (x - sum) + r.sum
  { sum := sum, lost := r.lost + error }

-- What is no number or infinite is not given back.
def total (r : Running) : Float :=
  if r.lost != 0.0 && r.lost.isFinite then r.sum + r.lost else r.sum

end Running

def sum : List Float → Float
  | [] => 0.0
  | x :: xs => (xs.foldl Running.add ⟨0.0 + x, 0.0⟩).total

end Formulary.Arithmetic
