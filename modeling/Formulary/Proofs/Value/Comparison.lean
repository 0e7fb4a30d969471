import Formulary.Proofs.Fault.Causes
import Mathlib.Data.String.Basic

set_option autoImplicit false

namespace Formulary

namespace Text

def codePoints (s : String) : List Nat := s.toList.map Char.toNat

theorem lt_iff_lex_codePoints (s t : String) :
    s < t ↔ List.Lex (· < ·) (codePoints s) (codePoints t) := by
  rw [String.lt_iff_toList_lt, codePoints, codePoints]
  generalize s.toList = cs
  generalize t.toList = ds
  induction cs generalizing ds with
  | nil => cases ds <;> simp
  | cons c cs ih =>
      cases ds with
      | nil => simp
      | cons d ds =>
          have same : c = d ↔ c.toNat = d.toNat := Char.toNat_inj.symm
          have less : c < d ↔ c.toNat < d.toNat := Iff.rfl
          rw [List.cons_lt_cons_iff, List.map_cons, List.map_cons, List.cons_lex_cons_iff, ih, same,
            less]

end Text

namespace Comparison

def converse : Comparison → Comparison
  | .less => .greater
  | .lessEqual => .greaterEqual
  | .greater => .less
  | .greaterEqual => .lessEqual
  | c => c

def Affirms (c : Comparison) (a b : Value) : Prop := c.apply a b = .ok (.boolean true)

def Mixed (a b : Value) : Prop := ¬(a.tag = .string ↔ b.tag = .string)

theorem isSome_textOf? {a : Value} (noError : a.isError = false) :
    (textOf? a).isSome = true ↔ a.tag = .string := by
  cases a <;> simp_all [textOf?, Value.tag, Value.isError]

theorem mixed_iff_textOf? {a b : Value} (noError : a.isError = false)
    (noError' : b.isError = false) : Mixed a b ↔ (textOf? a).isSome ≠ (textOf? b).isSome := by
  rw [Mixed, ← isSome_textOf? noError, ← isSome_textOf? noError']
  exact not_congr Bool.eq_iff_iff.symm

section Order

variable {c : Comparison} (order : c.isOrder = true) (a b : Value)

include order

theorem isOrder_converse : c.converse.isOrder = true := by
  cases c <;> first | rfl | cases order

theorem apply_converse : c.converse.apply b a = c.apply a b := by
  rw [apply, apply, holds_of_order order, holds_of_order (isOrder_converse order)]
  cases c with
  | equal | notEqual => cases order
  | less | lessEqual | greater | greaterEqual => cases textOf? a <;> cases textOf? b <;> rfl

theorem apply_of_not_mixed {a b : Value} (noError : a.isError = false)
    (noError' : b.isError = false) (alike : ¬Mixed a b) : ∃ t, c.apply a b = .ok (.boolean t) := by
  rw [mixed_iff_textOf? noError noError'] at alike
  rw [apply, holds_of_order order]
  cases first : textOf? a <;> cases second : textOf? b <;> simp_all [Except.map]

theorem apply_of_mixed {a b : Value} (noError : a.isError = false) (noError' : b.isError = false)
    (mixed : Mixed a b) : c.apply a b = .error .unordered :=
  apply_eq_error.mpr ⟨rfl, order, (mixed_iff_textOf? noError noError').mp mixed⟩

end Order

theorem same_of_tag_ne {a b : Value} (differ : a.tag ≠ b.tag) : a.same b = false := by
  cases a <;> cases b <;> first | rfl | exact absurd rfl differ

section Texts

variable (c : Comparison) (s t : String)

theorem apply_string : c.apply (.string s) (.string t) = .ok (.boolean (c.texts s t)) := by
  cases c <;> rfl

theorem affirms_string : c.Affirms (.string s) (.string t) ↔ c.texts s t = true := by
  simp [Affirms, apply_string]

theorem affirms_less : Affirms .less (.string s) (.string t) ↔ s < t := by
  rw [affirms_string, texts, decide_eq_true_iff]

theorem affirms_equal : Affirms .equal (.string s) (.string t) ↔ s = t := by
  rw [affirms_string, texts, beq_iff_eq]

theorem affirms_greater : Affirms .greater (.string s) (.string t) ↔ t < s := by
  rw [affirms_string, texts, decide_eq_true_iff]

theorem affirms_lessEqual : Affirms .lessEqual (.string s) (.string t) ↔ s ≤ t := by
  rw [affirms_string, texts, Bool.not_eq_true', decide_eq_false_iff_not, not_lt]

theorem existsUnique_affirms :
    ∃! c, c ∈ [Comparison.less, .equal, .greater] ∧ c.Affirms (.string s) (.string t) := by
  have apart (c : Comparison) (listed : c ∈ [less, equal, greater])
      (holds : c.Affirms (.string s) (.string t)) :
      c = .less ∧ s < t ∨ c = .equal ∧ s = t ∨ c = .greater ∧ t < s := by
    simp only [List.mem_cons, List.not_mem_nil, or_false] at listed
    rcases listed with rfl | rfl | rfl
    · exact .inl ⟨rfl, (affirms_less s t).mp holds⟩
    · exact .inr (.inl ⟨rfl, (affirms_equal s t).mp holds⟩)
    · exact .inr (.inr ⟨rfl, (affirms_greater s t).mp holds⟩)
  rcases lt_trichotomy s t with below | rfl | above
  · refine ⟨.less, ⟨by simp, (affirms_less s t).mpr below⟩, fun c given => ?_⟩
    have found := apart c given.1 given.2
    grind
  · refine ⟨.equal, ⟨by simp, (affirms_equal s s).mpr rfl⟩, fun c given => ?_⟩
    have found := apart c given.1 given.2
    grind
  · refine ⟨.greater, ⟨by simp, (affirms_greater s t).mpr above⟩, fun c given => ?_⟩
    have found := apart c given.1 given.2
    grind

end Texts

end Comparison

open Comparison in
/-- The comparisons of values that are no errors agree with each other. An order comes out the same
from both sides, and it fails exactly where a text meets something else; equality and its opposite
never fail, and values of different types are not equal. Texts are ordered by their code points, one
way or the other unless they are equal. -/
theorem comparisons_consistent :
    (∀ a b : Value, a.isError = false → b.isError = false →
      Comparison.less.apply a b = Comparison.greater.apply b a ∧
      Comparison.lessEqual.apply a b = Comparison.greaterEqual.apply b a ∧
      (∀ c : Comparison, c.isOrder = true →
        (Mixed a b → ∃ f, c.apply a b = .error f) ∧
        (¬Mixed a b → ∃ t, c.apply a b = .ok (.boolean t))) ∧
      ∃ t, Comparison.equal.apply a b = .ok (.boolean t) ∧
        Comparison.notEqual.apply a b = .ok (.boolean !t) ∧ (a.tag ≠ b.tag → t = false)) ∧
    (∀ s t : String,
      (∃! c, c ∈ [Comparison.less, .equal, .greater] ∧ c.Affirms (.string s) (.string t)) ∧
      (Affirms .lessEqual (.string s) (.string t) ↔
        Affirms .less (.string s) (.string t) ∨ Affirms .equal (.string s) (.string t)) ∧
      (Affirms .less (.string s) (.string t) ↔
        List.Lex (· < ·) (Text.codePoints s) (Text.codePoints t))) ∧
    ∀ s t u : String, Affirms .less (.string s) (.string t) →
      Affirms .less (.string t) (.string u) → Affirms .less (.string s) (.string u) := by
  refine ⟨fun a b noError noError' => ⟨?_, ?_, fun c order => ⟨?_, ?_⟩, ?_⟩,
    fun s t => ⟨?_, ?_, ?_⟩, fun s t u first second => ?_⟩
  · exact (apply_converse (c := .less) rfl a b).symm
  · exact (apply_converse (c := .lessEqual) rfl a b).symm
  · exact fun mixed => ⟨_, apply_of_mixed order noError noError' mixed⟩
  · exact apply_of_not_mixed order noError noError'
  · exact ⟨a.same b, rfl, rfl, same_of_tag_ne⟩
  · exact existsUnique_affirms s t
  · rw [affirms_lessEqual, affirms_less, affirms_equal, le_iff_lt_or_eq]
  · rw [affirms_less, Text.lt_iff_lex_codePoints]
  · rw [affirms_less] at first second ⊢
    exact first.trans second

theorem comparisons_consistent_nan :
    Comparison.less.apply (.number Numeral.notANumber) (.boolean true) =
        Comparison.greater.apply (.boolean true) (.number Numeral.notANumber) ∧
      (∃ f, Comparison.less.apply (.string "") (.number Numeral.notANumber) = .error f) ∧
      Comparison.Affirms .less (.string "Z") (.string "ſ") := by
  have numbers := comparisons_consistent.1 (.number Numeral.notANumber) (.boolean true) rfl rfl
  have mixed := comparisons_consistent.1 (.string "") (.number Numeral.notANumber) rfl rfl
  refine ⟨numbers.1, (mixed.2.2.1 .less rfl).1 (by simp [Comparison.Mixed, Value.tag]), ?_⟩
  exact comparisons_consistent.2.2 "Z" "a" "ſ" (by rfl) (by rfl)

end Formulary
