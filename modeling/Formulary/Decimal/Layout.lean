import Formulary.Decimal.Shortest

set_option autoImplicit false

namespace Formulary

/-- How a double is written: positionally while the point lies in `(lowest, highest]`, else with an
exponent. -/
structure NumberStyle where
  lowest : Int
  highest : Int
  -- Follows a positional number without a fraction.
  wholeEnd : String
  -- Follows a single digit in front of an exponent.
  leadEnd : String
  -- The least number of exponent digits.
  exponentWidth : Nat
  signedZero : Bool
  notANumber : String
  infinity : String

namespace NumberStyle

def signText (negative : Bool) : String := if negative then "-" else ""

def zeros (n : Nat) : List Char := List.replicate n '0'

def padded (width n : Nat) : List Char :=
  let ds := Decimal.digits n
  zeros (width - ds.length) ++ ds

def positional (style : NumberStyle) (ds : List Char) (point : Int) : List Char :=
  if point ≤ 0 then '0' :: '.' :: zeros (-point).toNat ++ ds
  else if (ds.length : Int) ≤ point then
    ds ++ zeros (point.toNat - ds.length) ++ style.wholeEnd.toList
  else ds.take point.toNat ++ '.' :: ds.drop point.toNat

def scientific (style : NumberStyle) (ds : List Char) (point : Int) : List Char :=
  let lead := match ds with
    | [] => []
    | [d] => d :: style.leadEnd.toList
    | d :: rest => d :: '.' :: rest
  let shift := point - 1
  lead ++ ['e', if shift < 0 then '-' else '+'] ++ padded style.exponentWidth shift.natAbs

def magnitude (style : NumberStyle) (d : Decimal) : List Char :=
  let ds := Decimal.digits d.coefficient
  if style.lowest < d.point ∧ d.point ≤ style.highest then style.positional ds d.point
  else style.scientific ds d.point

def zero (style : NumberStyle) (negative : Bool) : String :=
  signText (negative && style.signedZero) ++ "0" ++ style.wholeEnd

def text (style : NumberStyle) (x : Float) : String :=
  if x.isNaN then style.notANumber
  else if x.isInf then signText (Decimal.isNegative x) ++ style.infinity
  else
    let d := Decimal.ofFloat x
    if d.coefficient = 0 then style.zero d.negative
    else signText d.negative ++ String.ofList (style.magnitude d)

-- Results of formulas: plain digits from `0.000001` up to twenty-one digits.
def result : NumberStyle := {
  lowest := -6, highest := 21, wholeEnd := "", leadEnd := "", exponentWidth := 1
  signedZero := false, notANumber := "NaN", infinity := "Infinity" }

def data : NumberStyle := {
  lowest := -4, highest := 16, wholeEnd := ".0", leadEnd := "", exponentWidth := 2
  signedZero := true, notANumber := "nan", infinity := "inf" }

end NumberStyle

def formatNumber (x : Float) : String := NumberStyle.result.text x

end Formulary
