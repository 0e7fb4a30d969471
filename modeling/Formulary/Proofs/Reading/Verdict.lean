import Formulary.Proofs.Reading.Spaces
import Formulary.Proofs.Tokens.Tidy

set_option autoImplicit false

namespace Formulary

open Tape Rule Token

variable {σ τ : Type} [Tape σ] [Tape τ]

def verdict : EStateM.Result Fault σ Value → Value
  | .ok v s => if rest s = [] then v else .tokenError
  | .error _ _ => .valueError

theorem verdict_congr {P : Pairing σ τ} (empty : ∀ {s t}, P.tapes s t → (rest s = [] ↔ rest t = []))
    {r : EStateM.Result Fault σ Value} {r' : EStateM.Result Fault τ Value} (agree : P.Agree r r') :
    verdict r = verdict r' := by
  cases r with
  | ok v s =>
      cases r' with
      | ok v' t =>
          obtain ⟨rfl, paired⟩ := agree
          simp only [verdict, empty paired]
      | error g t => exact agree.elim
  | error f s =>
      cases r' with
      | ok v' t => exact agree.elim
      | error g t => rfl

theorem position_lt {ts us : List Token} (suffix : us <:+ ts) :
    ts.length - us.length < ts.length ↔ us ≠ [] := by
  have le := suffix.length_le
  cases us with
  | nil => simp
  | cons t us =>
      simp only [List.length_cons] at le ⊢
      constructor
      · simp
      · intro _
        omega

theorem outcome_ofTokens (setting : Setting) (ts : List Token) :
    (Run.ofTokens setting ts).outcome = match (whole setting).run ts with
      | .ok v _ => .ok v
      | .error f _ => .error f := by
  have same : (whole setting).run ts = (formula setting ts.length).run ts := rfl
  rw [Run.ofTokens, same]
  cases (formula setting ts.length).run ts <;> rfl

theorem position_ofTokens (setting : Setting) (ts : List Token) :
    (Run.ofTokens setting ts).position =
      ts.length - (Cursor.last ((whole setting).run ts)).length := by
  have same : (whole setting).run ts = (formula setting ts.length).run ts := rfl
  rw [Run.ofTokens, same]
  cases (formula setting ts.length).run ts <;> rfl

theorem ofTokens_eq_ok {setting : Setting} {ts : List Token} {v : Value} :
    Run.ofTokens setting ts = ⟨.ok v, ts.length⟩ ↔ (whole setting).run ts = .ok v [] := by
  have suffix := shrinks_whole setting ts
  have eq : (whole setting).run ts = (formula setting ts.length).run ts := rfl
  rw [Run.ofTokens, ← eq]
  cases run : (whole setting).run ts with
  | error f us => simp
  | ok w us =>
      rw [run] at suffix
      have suffix : us <:+ ts := suffix
      have shorter := position_lt suffix
      constructor
      · intro same
        obtain ⟨value, position⟩ := Run.mk.inj same
        cases value
        have read : ¬us ≠ [] := fun left => Nat.ne_of_lt (shorter.mpr left) position
        rw [Classical.not_not.mp read]
      · intro same
        cases same
        rfl

theorem evaluate_eq_value {setting : Setting} {e : String} (given : tokens e ≠ []) :
    evaluate setting e = (Run.ofTokens setting (tokens e)).value (tokens e).length := by
  rw [evaluate]
  split
  · rename_i blank
    exact absurd blank given
  · rfl

theorem evaluate_eq_verdict (setting : Setting) {e : String} (given : tokens e ≠ []) :
    evaluate setting e = verdict ((whole setting).run (tokens e)) := by
  have suffix := shrinks_whole setting (tokens e)
  have eq : (whole setting).run (tokens e) = (formula setting (tokens e).length).run (tokens e) :=
    rfl
  rw [evaluate_eq_value given, Run.ofTokens, ← eq]
  cases run : (whole setting).run (tokens e) with
  | error f us => rfl
  | ok w us =>
      rw [run] at suffix
      have suffix : us <:+ tokens e := suffix
      have shorter := position_lt suffix
      by_cases read : us = []
      · simp [Run.value, verdict, read]
      · simp only [Run.value, verdict]
        rw [if_pos (shorter.mpr read), rest_list, if_neg read]

theorem settled_tokens_bare {ts : List Token} (settled : Settled ts) :
    bare false ts = [] ↔ ts = [] := by
  constructor
  · intro empty
    have head := head_bare settled
    rw [empty, List.head?_nil] at head
    exact List.head?_eq_none_iff.mp head.symm
  · rintro rfl
    rfl

theorem verdict_bare (setting : Setting) {ts : List Token} (settled : Settled ts) :
    verdict ((whole setting).run ts) = verdict ((whole setting).run (bare false ts)) := by
  apply verdict_congr _ (Pairing.lockstep_bare setting settled)
  rintro us _ ⟨settled, bare, -⟩
  rw [bare, settled_tokens_bare settled]

theorem run_bare_eq_ok (setting : Setting) {ts : List Token} (settled : Settled ts) {v : Value} :
    (whole setting).run ts = .ok v [] ↔ (whole setting).run (bare false ts) = .ok v [] := by
  have agree := Pairing.lockstep_bare setting settled
  constructor
  · intro run
    rw [run] at agree
    obtain ⟨us, run', -, read, -⟩ := agree.ok_left
    have read : us = [] := read
    rw [run', read]
  · intro run
    rw [run] at agree
    obtain ⟨us, run', settled, read, -⟩ := agree.ok_right
    have empty : us = [] := (settled_tokens_bare settled).mp read.symm
    rw [run', empty]

theorem tokens_eq_nil_of_bare {e e' : String}
    (same : bare false (tokens e) = bare false (tokens e')) : tokens e = [] ↔ tokens e' = [] := by
  rw [← settled_tokens_bare (canonical_tokens e).start, same,
    settled_tokens_bare (canonical_tokens e').start]

theorem evaluate_blank (setting : Setting) {e : String} (blank : tokens e = []) :
    evaluate setting e = .string "" := by
  rw [evaluate, blank]

/-- Spaces outside string literals never matter, in either mode, for good and for malformed
expressions. -/
theorem evaluate_ignores_spaces (setting : Setting) {e e' : String}
    (same : bare false (tokens e) = bare false (tokens e')) :
    evaluate setting e = evaluate setting e' := by
  by_cases blank : tokens e = []
  · rw [evaluate_blank setting blank,
      evaluate_blank setting ((tokens_eq_nil_of_bare same).mp blank)]
  · have given : tokens e' ≠ [] := fun empty => blank ((tokens_eq_nil_of_bare same).mpr empty)
    calc evaluate setting e
        = verdict ((whole setting).run (tokens e)) := evaluate_eq_verdict setting blank
      _ = verdict ((whole setting).run (bare false (tokens e))) :=
          verdict_bare setting (canonical_tokens e).start
      _ = verdict ((whole setting).run (bare false (tokens e'))) := by rw [same]
      _ = verdict ((whole setting).run (tokens e')) :=
          (verdict_bare setting (canonical_tokens e').start).symm
      _ = evaluate setting e' := (evaluate_eq_verdict setting given).symm

theorem evaluate_ignores_spaces_malformed :
    bare false (tokens "NOPE ( 1 , \"a b\" ) ) \" c") = bare false (tokens "NOPE(1,\"a b\"))\" c") ∧
      evaluate ⟨[], true⟩ "NOPE ( 1 , \"a b\" ) ) \" c" = .tokenError := by
  have same : bare false (tokens "NOPE ( 1 , \"a b\" ) ) \" c") =
      bare false (tokens "NOPE(1,\"a b\"))\" c") := by decide
  exact ⟨same, (evaluate_ignores_spaces ⟨[], true⟩ same).trans (by rfl)⟩

end Formulary
