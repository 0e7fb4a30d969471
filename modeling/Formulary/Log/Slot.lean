import Formulary.Decimal.Places
import Formulary.Log.Record

set_option autoImplicit false

namespace Formulary.Log

inductive Measure where
  | usual
  | digits (n : Nat)
  -- A star takes the number from what is there to be shown.
  | star
deriving Repr, DecidableEq

structure Slot where
  key : Option String
  flags : List Char
  width : Measure
  precision : Measure
  kind : Char
deriving Repr

inductive Argument where
  | field (f : Field)
  | record (fields : List (String × Field))

namespace Argument

def literal : Argument → String
  | .field f => f.literal
  | .record fields =>
      let entry (e : String × Field) : String := Text.quoted e.1 ++ ": " ++ e.2.literal
      "\x7b" ++ ", ".intercalate (fields.map entry) ++ "\x7d"

def display : Argument → String
  | .field f => f.display
  | a => a.literal

def integer? : Argument → Option Int
  | .field (.integer n) => some n
  | _ => none

def truncated? : Argument → Option Int
  | .field (.float x) => Decimal.truncate? x
  | a => a.integer?

def float? : Argument → Option Float
  | .field (.integer n) => Decimal.floatOfInt? n
  | .field (.float x) => some x
  | _ => none

def char? : Argument → Option Char
  | .field (.text s) => if s.length = 1 then s.toList.head? else none
  | a => do
      let n ← a.integer?
      if 0 ≤ n ∧ n.toNat.isValidChar then some (Char.ofNat n.toNat) else none

def isMeasure (limit : Nat) (a : Argument) : Bool :=
  a.integer?.any fun n => -(limit : Int) ≤ n && n < limit

end Argument

namespace Slot

def widthLimit : Nat := 0x8000000000000000

def precisionLimit : Nat := 0x80000000

def has (s : Slot) (flag : Char) : Bool := s.flags.contains flag

-- A number keeps its front, the sign and the mark of its base, ahead of the zeros that fill it up.
def laid (s : Slot) (numeric : Bool) (front body : List Char) : List Char :=
  let width := match s.width with
    | .digits n => n
    | _ => 0
  let missing := width - (front.length + body.length)
  if s.has '-' then front ++ body ++ List.replicate missing ' '
  else if numeric && s.has '0' then front ++ List.replicate missing '0' ++ body
  else List.replicate missing ' ' ++ front ++ body

def places? (s : Slot) : Option Nat :=
  match s.precision with
  | .digits n => some n
  | _ => none

def showText (s : Slot) (text : String) : List Char :=
  s.laid false [] ((s.places?.map (text.toList.take ·)).getD text.toList)

def sign (s : Slot) (negative : Bool) : List Char :=
  if negative then ['-'] else if s.has '+' then ['+'] else if s.has ' ' then [' '] else []

def showInteger (s : Slot) (base : Nat) (mark : List Char) (n : Int) : List Char :=
  let ds := Nat.toDigits base n.natAbs
  let ds := List.replicate (s.places?.getD 0 - ds.length) '0' ++ ds
  s.laid true (s.sign (n < 0) ++ if s.has '#' then mark else []) ds

def exponentText (e : Int) : List Char :=
  let ds := Decimal.digits e.natAbs
  'e' :: (if e < 0 then '-' else '+') :: List.replicate (2 - ds.length) '0' ++ ds

def finite (s : Slot) (kind : Char) (num den count : Nat) : List Char :=
  let exponential (tidy : Places → Places) (count : Nat) : List Char :=
    let (c, e) := Decimal.leadingDigits num den count
    (tidy (Places.ofCoefficient c count)).text (s.has '#') ++ exponentText e
  match kind with
  | 'e' => exponential id count
  | 'f' => (Decimal.fixed num den count).text (s.has '#')
  | _ =>
      let count := max 1 count
      let tidy (p : Places) : Places := if s.has '#' then p else p.withoutZeros
      let (c, e) := Decimal.leadingDigits num den (count - 1)
      if -4 ≤ e ∧ e < count then
        (tidy (Places.ofCoefficient c (count - 1 - e).toNat)).text (s.has '#')
      else exponential tidy (count - 1)

def showFloat (s : Slot) (kind : Char) (x : Float) : List Char :=
  if x.isNaN then s.laid true (s.sign false) "nan".toList
  else
    let bits := Decimal.magnitudeBits x
    let (num, den) := Decimal.ratio bits
    let body := if x.isInf then "inf".toList else s.finite kind num den (s.places?.getD 6)
    s.laid true (s.sign (Decimal.isNegative x)) body

def upper (cs : List Char) : List Char := cs.map Char.toUpper

def ascii (c : Char) : List Char := if c.toNat < 0x80 then [c] else Text.codeEscape c

def integer? (s : Slot) (n? : Option Int) : Option Int :=
  if precisionLimit - 4 < s.places?.getD 0 then none else n?

def converted? (s : Slot) (a : Argument) : Option (List Char) :=
  match s.kind with
  | 's' => some (s.showText a.display)
  | 'r' => some (s.showText a.literal)
  | 'a' => some (s.showText (String.ofList (a.literal.toList.flatMap ascii)))
  | 'd' | 'i' | 'u' => (s.integer? a.truncated?).map (s.showInteger 10 [])
  | 'o' => (s.integer? a.integer?).map (s.showInteger 8 ['0', 'o'])
  | 'x' => (s.integer? a.integer?).map (s.showInteger 16 ['0', 'x'])
  | 'X' => (s.integer? a.integer?).map fun n => upper (s.showInteger 16 ['0', 'x'] n)
  | 'e' | 'f' | 'g' => a.float?.map (s.showFloat s.kind)
  | 'E' | 'F' | 'G' => a.float?.map fun x => upper (s.showFloat s.kind.toLower x)
  | 'c' => a.char?.map fun c => s.laid false [] [c]
  | _ => none

/-- A slot takes as many arguments as there are: none behind the last, and else one, which is shown
or gives a star its number. -/
def show? (s : Slot) (given : Option Argument) : Option (List Char) :=
  let percent := s.kind = '%'
  match given, s.width, s.precision with
  | none, .star, _ | none, _, .star | some _, .star, .star => none
  | none, _, _ => if percent then some ['%'] else none
  | some a, .star, _ => if percent ∧ a.isMeasure widthLimit then some ['%'] else none
  | some a, _, .star => if percent ∧ a.isMeasure precisionLimit then some ['%'] else none
  | some a, _, _ => if percent then none else s.converted? a

end Slot

end Formulary.Log
