import Formulary.Formula.Rule
import Formulary.Proofs.Decimal.Leading

set_option autoImplicit false

namespace Formulary

namespace Operator

theorem divide_ok {x y : Float} (given : (y == 0.0) = false) :
    Arithmetic.divide x y = .ok (x / y) := by
  rw [Arithmetic.divide, given]
  rfl

theorem multiply_ok (o : Multiplicative) (a b : Value) : ∃ v, multiply o a b = .ok v := by
  cases o with
  | times => exact ⟨_, rfl⟩
  | divide =>
      simp only [multiply]
      by_cases zero : (b.asNumber == 0.0) = true
      · exact ⟨_, if_pos zero⟩
      · rw [if_neg zero, divide_ok (Bool.not_eq_true _ ▸ zero)]
        exact ⟨_, rfl⟩

theorem raise_error {x y : Float} {f : Fault} (fails : Arithmetic.raise x y = .error f) :
    f = .outOfDomain ∨ f = .outOfRange := by
  unfold Arithmetic.raise at fails
  dsimp only at fails
  split at fails
  · cases fails
  · split at fails
    · cases fails
      exact .inl rfl
    · cases fails
      exact .inr rfl

theorem power_ok (base exponent : Float) : ∃ x, power base exponent = .ok x := by
  unfold power
  cases raised : Arithmetic.raise base exponent with
  | ok x => exact ⟨x, rfl⟩
  | error f =>
      obtain rfl | rfl := raise_error raised
      · exact ⟨_, rfl⟩
      · exact ⟨_, rfl⟩

theorem raise_ok (u : Unit) (a b : Value) : ∃ v, raise u a b = .ok v := by
  obtain ⟨x, power⟩ := power_ok a.asNumber b.asNumber
  exact ⟨.number x, by rw [raise, power]; rfl⟩

theorem tag_of_number {e : Except Fault Float} {v : Value}
    (computed : e.map Value.number = .ok v) : v.tag = .number := by
  cases e with
  | error f => cases computed
  | ok x =>
      cases computed
      rfl

end Operator

namespace Function

theorem numberOf_string (s : String) :
    numberOf (.string s) = .ok (.number (Numeral.leading s)) := by
  rw [numberOf, Numeral.arithmetic_leading]
  rfl

theorem numberOf_ok (v : Value) : ∃ w, numberOf v = .ok w := by
  cases v with
  | string s => exact ⟨_, numberOf_string s⟩
  | _ => exact ⟨_, rfl⟩

end Function

namespace Rule

open Numeral

theorem isLiteral_iff {w : String} : isLiteral w = true ↔ ∃ m : Mantissa, w.toList = m.text := by
  rw [isLiteral, Option.any_eq_true]
  constructor
  · rintro ⟨r, read, ends⟩
    obtain ⟨m, -, text⟩ := exists_mantissa read
    rw [List.isEmpty_iff] at ends
    exact ⟨m, by rw [text, ends, List.append_nil]⟩
  · rintro ⟨m, text⟩
    have read := mantissa?_text m ends_nil (by simp)
    rw [List.append_nil] at read
    exact ⟨_, by rw [text, read], rfl⟩

theorem read_mantissa (m : Mantissa) : Arithmetic.read m.text = .ok m.decimal.toFloat := by
  have read := read_short ⟨.unwritten, .decimal m none⟩
  have text : Spelling.short ⟨.unwritten, .decimal m none⟩ = m.text := by
    simp [Spelling.short, Body.short, Body.text, Sign.text]
  have value : Spelling.value ⟨.unwritten, .decimal m none⟩ = m.decimal.toFloat := by
    simp only [Spelling.value, scaled, Option.map_none, Option.getD_none, Int.add_zero]
    rfl
  rw [← text, read, value]

theorem numeral_eq (w : String) :
    numeral w = .ok ((literal? w).elim .numeralError .number) := by
  unfold numeral
  by_cases literal : isLiteral w = true
  · obtain ⟨m, text⟩ := isLiteral_iff.mp literal
    have found := mantissa?_text m ends_nil (by simp)
    rw [List.append_nil] at found
    rw [if_pos literal, text, read_mantissa, literal?, text, found]
    rfl
  · have none : literal? w = none := by
      unfold literal?
      split
      · rename_i d found
        exact absurd (by rw [isLiteral, found]; rfl) literal
      · rfl
    rw [if_neg literal, none]
    rfl

end Rule

end Formulary
