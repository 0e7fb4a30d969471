import Formulary.Proofs.Decimal.Layout
import Formulary.Proofs.Decimal.Readers

set_option autoImplicit false

namespace Formulary

open Decimal Numeral NumberStyle Text

/-- All readers take a text for this number, formulas if it has no exponent. -/
structure ReadsAs (text : String) (x : Float) : Prop where
  leading : Numeral.leading text = x
  given : Value.ofText text = .number x
  evaluated : 'e' ∉ text.toList → ∀ setting, evaluate setting text = .number x

theorem readsAs_written (d : Decimal) (negative : Bool) :
    ReadsAs (written d negative) (ofSignedBits negative d.magnitude) := by
  obtain ⟨m, e?, digits, same, marked⟩ := exists_magnitude spelled_result d
  have text : (written d negative).toList =
      (⟨signOf negative, .decimal m e?⟩ : Spelling).text := by
    rw [toList_written, Spelling.text, digits, text_signOf]
  have value : (⟨signOf negative, .decimal m e?⟩ : Spelling).value =
      ofSignedBits negative d.magnitude := by
    have congr : { scaled m e? with negative := (signOf negative).negative }.magnitude =
        d.magnitude := magnitude_congr same
    exact congrArg₂ ofSignedBits (negative_signOf negative) congr
  rw [← value]
  refine ⟨leading_of_longest (longest_of_spelled text), ofText_of_spelled text,
    fun plain setting => ?_⟩
  have unmarked : hasExponent (written d negative) = false := by
    rw [hasExponent_spelled text, ← Bool.not_eq_true]
    exact fun given => plain (by simp [toList_written, marked given])
  rw [evaluate_of_spelled setting text, unmarked]
  rfl

section Numbers

variable {x : Float}

theorem zero_result (negative : Bool) : result.zero negative = "0" := by
  cases negative <;> rfl

theorem text_finite (style : NumberStyle) (finite : x.isFinite = true) :
    style.text x = if magnitudeBits x = 0 then style.zero (isNegative x)
      else signText (isNegative x) ++ String.ofList (style.magnitude (ofFloat x)) := by
  have ordinary : x.isNaN = false ∧ x.isInf = false := by simpa [isFinite_eq] using finite
  have none := coefficient_shortest (isFinite_iff.mp finite)
  rw [NumberStyle.text, ordinary.1, ordinary.2]
  simp only [Bool.false_eq_true, if_false, ofFloat, none]

theorem magnitude_ofFloat (finite : x.isFinite = true) :
    (ofFloat x).magnitude = magnitudeBits x :=
  (magnitude_congr rfl).trans (magnitude_shortest (isFinite_iff.mp finite))

theorem formatNumber_finite (finite : x.isFinite = true) :
    ∃ d negative, formatNumber x = written d negative ∧
      ofSignedBits negative d.magnitude = if x = -0.0 then 0.0 else x := by
  have text := text_finite result finite
  by_cases none : magnitudeBits x = 0
  · refine ⟨⟨false, 0, 0⟩, false, ?_, ?_⟩
    · rw [formatNumber, text, if_pos none, zero_result]
      rfl
    · obtain rfl | rfl := magnitudeBits_eq_zero.mp none <;> rfl
  · have signed : x ≠ -0.0 := fun zero => none (magnitudeBits_eq_zero.mpr (.inr zero))
    refine ⟨ofFloat x, isNegative x, ?_, ?_⟩
    · rw [formatNumber, text, if_neg none, written]
    · rw [magnitude_ofFloat finite, if_neg signed, ofSignedBits_self]

theorem leading_infinite (infinite : x.isInf = true) : leading (formatNumber x) = x := by
  have number : x.isNaN = false := by
    rw [← Bool.not_eq_true, Float.isNaN_eq_decide_eq_nan, decide_eq_true_eq]
    rintro rfl
    exact absurd infinite (by decide)
  have bits := isInf_iff.mp infinite
  have text : formatNumber x = signText (isNegative x) ++ "Infinity" := by
    rw [formatNumber, NumberStyle.text, number, infinite]
    rfl
  calc leading (formatNumber x)
    _ = leading (signText (isNegative x) ++ "Infinity") := by rw [text]
    _ = ofSignedBits (isNegative x) infinityBits := by cases isNegative x <;> rfl
    _ = x := by rw [← bits, ofSignedBits_self]

theorem leading_nan (nan : x.isNaN = true) : leading (formatNumber x) = x := by
  have text : formatNumber x = "NaN" := by rw [formatNumber, NumberStyle.text, nan]; rfl
  have same : x = Float.nan := by simpa [Float.isNaN_eq_decide_eq_nan] using nan
  rw [text, same]
  rfl

theorem formatNumber_readsAs (finite : x.isFinite = true) :
    ReadsAs (formatNumber x) (if x = -0.0 then 0.0 else x) := by
  obtain ⟨d, negative, text, same⟩ := formatNumber_finite finite
  rw [text, ← same]
  exact readsAs_written d negative

theorem leading_formatNumber (number : x.isNaN = false) :
    leading (formatNumber x) = if x = -0.0 then 0.0 else x := by
  by_cases infinite : x.isInf = true
  · have signed : x ≠ -0.0 := by
      rintro rfl
      exact absurd infinite (by decide)
    rw [leading_infinite infinite, if_neg signed]
  · have finite : x.isFinite = true := by
      rw [isFinite_eq, number, eq_false_of_ne_true infinite]
      rfl
    exact (formatNumber_readsAs finite).leading

/-- Written numbers read back bit for bit, but the two zeros share a text. -/
theorem formatNumber_reads_back :
    (∀ x : Float, x.isFinite = true → x ≠ -0.0 → ReadsAs (formatNumber x) x) ∧
    ReadsAs (formatNumber (-0.0)) 0.0 ∧
    (∀ x : Float, x.isInf = true → leading (formatNumber x) = x) ∧
    (∀ x : Float, x.isNaN = true → (leading (formatNumber x)).isNaN = true) ∧
    ∀ x y : Float, x.isNaN = false → y.isNaN = false → formatNumber x = formatNumber y →
      x = y ∨ (x = 0.0 ∧ y = -0.0) ∨ (x = -0.0 ∧ y = 0.0) := by
  refine ⟨fun x finite signed => ?_, ?_, fun x => leading_infinite, fun x nan => ?_,
    fun x y number number' shared => ?_⟩
  · simpa [signed] using formatNumber_readsAs finite
  · simpa using formatNumber_readsAs (x := -0.0) (by decide)
  · rw [leading_nan nan, nan]
  · have same := leading_formatNumber number
    rw [shared, leading_formatNumber number'] at same
    by_cases zero : x = -0.0 <;> by_cases zero' : y = -0.0
    · exact .inl (zero.trans zero'.symm)
    · rw [if_neg zero', if_pos zero] at same
      exact .inr (.inr ⟨zero, same⟩)
    · rw [if_pos zero', if_neg zero] at same
      exact .inr (.inl ⟨same.symm, zero'⟩)
    · rw [if_neg zero', if_neg zero] at same
      exact .inl same.symm

theorem formatNumber_reads_back_least :
    (formatNumber (Float.ofBits 1) = "5e-324" ∧
      leading (formatNumber (Float.ofBits 1)) = Float.ofBits 1) ∧
    formatNumber (-1.5) = "-1.5" ∧
      evaluate ⟨[], true⟩ (formatNumber (-1.5)) = .number (-1.5) := by
  have least := formatNumber_reads_back.1 (Float.ofBits 1) (by decide) (by decide)
  have half := formatNumber_reads_back.1 (-1.5) (by decide) (by decide)
  have plain : 'e' ∉ (formatNumber (-1.5)).toList := by decide +kernel
  exact ⟨⟨by decide +kernel, least.leading⟩, by decide +kernel, half.evaluated plain _⟩

end Numbers

end Formulary
