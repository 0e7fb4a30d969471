import Formulary.Decimal.Layout
import Formulary.Proofs.Decimal.Spelling

set_option autoImplicit false

namespace Formulary.NumberStyle

open Decimal Numeral Text

section Zeros

theorem digits_zeros (n : Nat) : Digits (zeros n) := by
  intro c mem
  obtain rfl : c = '0' := (List.mem_replicate.mp mem).2
  decide

@[simp] theorem length_zeros (n : Nat) : (zeros n).length = n := by simp [zeros]

@[simp] theorem natOf_zeros (n : Nat) : natOf (zeros n) = 0 := by
  simp [zeros, natOf_eq, Nat.ofDigitChars_replicate_zero]

theorem digits_padded (width n : Nat) : Digits (padded width n) :=
  (digits_zeros _).append (digits_digits n)

theorem natOf_padded (width n : Nat) : natOf (padded width n) = n := by
  simp [padded, natOf_append, natOf_digits]

theorem padded_ne_nil (width n : Nat) : padded width n ≠ [] := by
  simp [padded, digits_ne_nil]

end Zeros

/-- Styles that end a number as numerals may end. -/
structure Spelled (style : NumberStyle) : Prop where
  wholeEnd : ∃ shown : Bool, style.wholeEnd = if shown then ".0" else ""
  leadEnd : style.leadEnd = ""

theorem spelled_result : Spelled result := ⟨⟨false, rfl⟩, rfl⟩

theorem spelled_data : Spelled data := ⟨⟨true, rfl⟩, rfl⟩

def shifted (width : Nat) (shift : Int) : Exponent where
  mark := 'e'
  sign := if shift < 0 then .minus else .plus
  digits := padded width shift.natAbs
  marked := by decide
  isDigits := digits_padded width shift.natAbs
  given := padded_ne_nil width shift.natAbs

theorem text_shifted (width : Nat) (shift : Int) : (shifted width shift).text =
    ['e', if shift < 0 then '-' else '+'] ++ padded width shift.natAbs := by
  simp only [Exponent.text, shifted]
  split <;> rfl

theorem value_shifted (width : Nat) (shift : Int) : (shifted width shift).value = shift := by
  simp only [Exponent.value, shifted, natOf_padded, Sign.apply]
  by_cases below : shift < 0
  · simp only [if_pos below, Sign.negative, if_true]
    omega
  · simp only [if_neg below, Sign.negative, Bool.false_eq_true, if_false]
    omega

section Layouts

variable {style : NumberStyle} {ds : List Char} (digits : Digits ds) (given : ds ≠ [])

def smallMantissa (n : Nat) : Mantissa where
  whole := ['0']
  fraction? := some (zeros n ++ ds)
  digits := Digits.append (by decide) ((digits_zeros n).append digits)
  given := by simp

theorem decimal_smallMantissa (n : Nat) :
    (smallMantissa digits n).decimal = ⟨false, natOf ds, -((n + ds.length : Nat) : Int)⟩ := by
  have value : natOf ('0' :: (zeros n ++ ds)) = natOf ds := by
    change natOf (zeros (n + 1) ++ ds) = natOf ds
    simp [natOf_append]
  simp [Mantissa.decimal, Mantissa.fraction, smallMantissa, value]

def innerMantissa (n : Nat) : Mantissa where
  whole := ds.take n
  fraction? := some (ds.drop n)
  digits := by simpa using digits
  given := by simpa using given

theorem decimal_innerMantissa (n : Nat) :
    (innerMantissa digits given n).decimal = ⟨false, natOf ds, -((ds.length - n : Nat) : Int)⟩ := by
  simp [Mantissa.decimal, Mantissa.fraction, innerMantissa]

def wholeMantissa (shown : Bool) (n : Nat) : Mantissa where
  whole := ds ++ zeros n
  fraction? := if shown then some ['0'] else none
  digits := (digits.append (digits_zeros n)).append (by cases shown <;> decide)
  given := by simp [given]

theorem text_wholeMantissa (shown : Bool) (n : Nat) : (wholeMantissa digits given shown n).text =
    ds ++ zeros n ++ (if shown then ".0" else "").toList := by
  cases shown <;> simp [Mantissa.text, wholeMantissa]

theorem amount_wholeMantissa (shown : Bool) (n : Nat) :
    (wholeMantissa digits given shown n).decimal.amount = natOf ds * 10 ^ n := by
  have last : natOf ['0'] = 0 := rfl
  cases shown <;>
    simp [Mantissa.decimal, Mantissa.fraction, wholeMantissa, amount, natOf_append, last, pow_succ,
      ← mul_assoc]

def leadMantissa {d : Char} {rest : List Char} (digits : Digits (d :: rest)) : Mantissa where
  whole := [d]
  fraction? := if rest = [] then none else some rest
  digits := by cases rest <;> exact digits
  given := by simp

theorem text_leadMantissa {d : Char} {rest : List Char} (digits : Digits (d :: rest)) :
    (leadMantissa digits).text = d :: if rest = [] then [] else '.' :: rest := by
  cases rest <;> rfl

theorem decimal_leadMantissa {d : Char} {rest : List Char} (digits : Digits (d :: rest)) :
    (leadMantissa digits).decimal = ⟨false, natOf (d :: rest), -(rest.length : Int)⟩ := by
  cases rest <;> rfl

include digits given

theorem exists_positional (spelled : Spelled style) (point : Int) :
    ∃ m : Mantissa, m.text = style.positional ds point ∧
      m.decimal.amount = natOf ds * 10 ^ (point - ds.length) := by
  rw [positional]
  split
  · have place : -(((-point).toNat + ds.length : Nat) : Int) = point - ds.length := by omega
    refine ⟨smallMantissa digits (-point).toNat, rfl, ?_⟩
    rw [decimal_smallMantissa, amount, place]
  · split
    · have place : point - ds.length = (point.toNat - ds.length : Nat) := by omega
      obtain ⟨shown, wholeEnd⟩ := spelled.wholeEnd
      refine ⟨wholeMantissa digits given shown (point.toNat - ds.length), ?_, ?_⟩
      · rw [text_wholeMantissa, wholeEnd]
      · rw [amount_wholeMantissa, place, zpow_natCast]
    · have place : -((ds.length - point.toNat : Nat) : Int) = point - ds.length := by omega
      refine ⟨innerMantissa digits given point.toNat, rfl, ?_⟩
      rw [decimal_innerMantissa, amount, place]

omit digits given in
theorem scientific_eq (spelled : Spelled style) {d : Char} {rest : List Char}
    (digits : Digits (d :: rest)) (point : Int) : style.scientific (d :: rest) point =
      (leadMantissa digits).text ++ (shifted style.exponentWidth (point - 1)).text := by
  rw [text_leadMantissa, text_shifted]
  cases rest with
  | nil => simp [scientific, spelled.leadEnd]
  | cons e rest => simp [scientific]

theorem exists_scientific (spelled : Spelled style) (point : Int) :
    ∃ m e, (Body.decimal m (some e)).text = style.scientific ds point ∧
      scaled m (some e) = ⟨false, natOf ds, point - ds.length⟩ := by
  obtain ⟨d, rest, rfl⟩ := List.exists_cons_of_ne_nil given
  refine ⟨leadMantissa digits, shifted style.exponentWidth (point - 1), ?_, ?_⟩
  · rw [scientific_eq spelled digits]
    rfl
  · simp [scaled, decimal_leadMantissa, value_shifted]
    omega

end Layouts

theorem point_sub_length (d : Decimal) :
    d.point - (Decimal.digits d.coefficient).length = d.exponent := by
  simp [point, digitCount]

theorem exists_magnitude {style : NumberStyle} (spelled : Spelled style) (d : Decimal) :
    ∃ m e?, (Body.decimal m e?).text = style.magnitude d ∧ (scaled m e?).amount = d.amount ∧
      (e?.isSome → 'e' ∈ style.magnitude d) := by
  have digits := digits_digits d.coefficient
  have given := digits_ne_nil d.coefficient
  have place := point_sub_length d
  rw [magnitude]
  split
  · obtain ⟨m, text, value⟩ := exists_positional digits given spelled d.point
    rw [natOf_digits, place] at value
    exact ⟨m, none, by simpa [Body.text] using text, by simpa [scaled, amount] using value, nofun⟩
  · obtain ⟨m, e, text, value⟩ := exists_scientific digits given spelled d.point
    rw [natOf_digits, place] at value
    exact ⟨m, some e, text, by rw [value]; rfl, fun _ => by simp [scientific]⟩

section Written

def signOf (negative : Bool) : Sign := if negative then .minus else .unwritten

@[simp] theorem negative_signOf (negative : Bool) : (signOf negative).negative = negative := by
  cases negative <;> rfl

@[simp] theorem text_signOf (negative : Bool) :
    (signOf negative).text = (signText negative).toList := by
  cases negative <;> rfl

variable (d : Decimal) (negative : Bool)

def written : String := signText negative ++ String.ofList (result.magnitude d)

theorem toList_written :
    (written d negative).toList = (signText negative).toList ++ result.magnitude d := by
  simp [written]

end Written

end Formulary.NumberStyle
