import Formulary.Proofs.Grammar.Parts

set_option autoImplicit false

namespace Formulary

open Tape Rule Token

structure Tree.Written (t : Tree) (ts : List Token) : Prop where
  settled : Settled ts
  fits : t.Fits []
  yield : bare false ts = t.yield

namespace Tree.Written

variable {t : Tree} {ts : List Token} (written : t.Written ts) {scope : Scope}

include written in
theorem gives_value (scope : Scope) : Gives (fun _ => False) (t.value scope) []
    ((whole ⟨scope, false⟩).run (bare false ts)) :=
  gives_whole (σ := List Token) (noted_default ⟨scope, false⟩ rfl) written.fits (by simp [Settled])
    (stops_nil 0) (by simp [written.yield])

include written in
theorem ofTokens_eq_value {v : Value} (value : t.value scope = .ok v) :
    Run.ofTokens ⟨scope, false⟩ ts = ⟨.ok v, ts.length⟩ := by
  have gives := written.gives_value scope
  rw [value] at gives
  obtain ⟨us, run, (rfl : us = [])⟩ := gives.eq_ok id
  rw [ofTokens_eq_ok, run_bare_eq_ok _ written.settled, run]

include written in
theorem outcome_eq_error {f : Fault} (fails : t.value scope = .error f) :
    (Run.ofTokens ⟨scope, false⟩ ts).outcome = .error f := by
  have gives := written.gives_value scope
  rw [fails] at gives
  obtain ⟨us, run⟩ := gives.eq_error id
  have agree := Pairing.lockstep_bare ⟨scope, false⟩ written.settled
  rw [run] at agree
  rw [outcome_ofTokens]
  cases faulty : (whole ⟨scope, false⟩).run ts with
  | ok v vs =>
      rw [faulty] at agree
      exact agree.elim
  | error g vs =>
      rw [faulty] at agree
      obtain ⟨rfl, -⟩ := agree
      rfl

end Tree.Written

section Evaluate

variable {setting : Setting} {e : String} (given : tokens e ≠ [])

include given in
theorem evaluate_of_ofTokens {v : Value}
    (run : Run.ofTokens setting (tokens e) = ⟨.ok v, (tokens e).length⟩) :
    evaluate setting e = v := by
  rw [evaluate_eq_value given, run]
  simp [Run.value]

include given in
theorem evaluate_of_outcome {f : Fault}
    (fails : (Run.ofTokens setting (tokens e)).outcome = .error f) :
    evaluate setting e = .valueError := by
  rw [evaluate_eq_value given, Run.value, fails]

end Evaluate

end Formulary
