import Formulary.Decimal.Numeral
import Formulary.Text.Case

set_option autoImplicit false

namespace Formulary.Numeral

open Text

def isMargin (c : Char) : Bool := c == ' ' || (0x9 ≤ c.toNat && c.toNat ≤ 0xD)

def plainChar (c : Char) : Char :=
  if c.toNat < 0x7F then c
  else if isBlank c then ' '
  else match decimalDigit? c with
    | some d => Char.ofNat ('0'.toNat + d)
    | none => '?'

def plain (text : String) : List Char :=
  let cs := (text.toList.map plainChar).dropWhile isMargin
  (cs.reverse.dropWhile isMargin).reverse

def ungroup? (isDigit : Char → Bool) : Option Char → List Char → Option (List Char)
  | _, [] => some []
  | before, '_' :: cs =>
      if before.any isDigit ∧ cs.head?.any isDigit then ungroup? isDigit (some '_') cs else none
  | _, c :: cs => (ungroup? isDigit (some c) cs).map (c :: ·)

inductive Base where
  | binary
  | octal
  | ten
  | sixteen
deriving DecidableEq

namespace Base

def size : Base → Nat
  | .binary => 2
  | .octal => 8
  | .ten => 10
  | .sixteen => 16

def letter? : Base → Option Char
  | .binary => some 'b'
  | .octal => some 'o'
  | .ten => none
  | .sixteen => some 'x'

-- Longer integers are not read where that would take long.
def mostDigits? : Base → Option Nat
  | .ten => some 4300
  | _ => none

end Base

def digitOf (c : Char) : Nat :=
  if isAsciiDigit c then asciiDigit c
  else if isAsciiLetter c then c.toLower.toNat - 'a'.toNat + 10
  else 36

def isDigitIn (base : Base) (c : Char) : Bool := digitOf c < base.size

def withoutMark (base : Base) (cs : List Char) : List Char :=
  match cs with
  | '0' :: c :: rest =>
      if some c.toLower = base.letter? then
        if rest.head? = some '_' then rest.tail else rest
      else cs
  | _ => cs

def freeIntegerIn? (base : Base) (text : String) : Option Int := do
  let signed := sign (plain text)
  let ds ← ungroup? (isDigitIn base) none (withoutMark base signed.rest)
  if ds = [] ∨ ¬ ds.all (isDigitIn base) ∨ base.mostDigits?.any (· < ds.length) then none
  else
    let n := ds.foldl (fun n c => base.size * n + digitOf c) 0
    some (if signed.value then -(n : Int) else n)

def freeInteger? (text : String) : Option Int := freeIntegerIn? .ten text

def asciiLower (cs : List Char) : String := String.ofList (cs.map Char.toLower)

def freeFloat? (text : String) : Option Float := do
  let signed := sign (← ungroup? isAsciiDigit none (plain text))
  match asciiLower signed.rest with
  | "inf" | "infinity" => some (infinity signed.value)
  | "nan" => some notANumber
  | _ =>
      match decimal? signed.rest with
      | some ⟨d, []⟩ => some { d with negative := signed.value }.toFloat
      | _ => none

end Formulary.Numeral
