import Formulary.Decimal.Basic
import Formulary.Text.Blank
import Formulary.Text.Digit

set_option autoImplicit false

namespace Formulary.Numeral

open Text

def natOf (ds : List Char) : Nat := ds.foldl (fun n c => 10 * n + asciiDigit c) 0

structure Prefixed (α : Type) where
  value : α
  rest : List Char

def mantissa? (cs : List Char) : Option (Prefixed Decimal) :=
  let whole := cs.takeWhile isAsciiDigit
  match cs.dropWhile isAsciiDigit with
  | '.' :: rest =>
      let fraction := rest.takeWhile isAsciiDigit
      if whole = [] ∧ fraction = [] then none
      else some {
        value := ⟨false, natOf (whole ++ fraction), -(fraction.length : Int)⟩
        rest := rest.dropWhile isAsciiDigit }
  | rest => if whole = [] then none else some { value := ⟨false, natOf whole, 0⟩, rest := rest }

def sign : List Char → Prefixed Bool
  | '-' :: cs => ⟨true, cs⟩
  | '+' :: cs => ⟨false, cs⟩
  | cs => ⟨false, cs⟩

def isExponentMark (c : Char) : Bool := c = 'e' || c = 'E'

-- A mark with no digits behind it is not part of the number.
def exponent (cs : List Char) : Prefixed Int :=
  match cs with
  | c :: rest =>
      let signed := sign rest
      let ds := signed.rest.takeWhile isAsciiDigit
      if isExponentMark c ∧ ds ≠ [] then
        { value := if signed.value then -(natOf ds : Int) else natOf ds
          rest := signed.rest.dropWhile isAsciiDigit }
      else ⟨0, cs⟩
  | [] => ⟨0, cs⟩

def decimal? (cs : List Char) : Option (Prefixed Decimal) :=
  (mantissa? cs).map fun m =>
    let e := exponent m.rest
    { value := { m.value with exponent := m.value.exponent + e.value }, rest := e.rest }

def infinityWord : List Char := "Infinity".toList

def upTo (cs rest : List Char) : List Char := cs.take (cs.length - rest.length)

/-- The longest numeral at the front of a text, after leading blanks, with a short word for the
infinite. -/
def front? (text : String) : Option (List Char) :=
  let cs := trimStart text.toList
  let signed := sign cs
  if infinityWord.isPrefixOf signed.rest then some (upTo cs signed.rest ++ "inf".toList)
  else (decimal? signed.rest).map fun d => upTo cs d.rest

def infinity (negative : Bool) : Float := Decimal.ofSignedBits negative Decimal.infinityBits

def notANumber : Float := 0.0 / 0.0

def leading (text : String) : Float :=
  let signed := sign (trimStart text.toList)
  if infinityWord.isPrefixOf signed.rest then infinity signed.value
  else
    match decimal? signed.rest with
    | some d => { d.value with negative := signed.value }.toFloat
    | none => notANumber

def isLiteral (text : String) : Bool := (mantissa? text.toList).any (·.rest.isEmpty)

def literal? (text : String) : Option Float :=
  match mantissa? text.toList with
  | some ⟨d, []⟩ => some d.toFloat
  | _ => none

def signed? (text : String) : Option Float :=
  let signed := sign text.toList
  match decimal? signed.rest with
  | some ⟨d, []⟩ => some { d with negative := signed.value }.toFloat
  | _ => none

end Formulary.Numeral
