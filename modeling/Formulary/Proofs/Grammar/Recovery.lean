import Formulary.Proofs.Grammar.Print
import Formulary.Proofs.Grammar.Written

set_option autoImplicit false

namespace Formulary

open Rule Token

namespace Function

theorem value_isError (v : Value) : value "ISERROR" [v] = .ok (.boolean v.isError) := by
  cases v <;> rfl

theorem value_ifError (v fallback : Value) (sound : fallback.isError = false) :
    value "IFERROR" [v, fallback] = .ok (if v.isError then fallback else v) := by
  cases fallback with
  | error s => cases sound
  | _ => cases v <;> rfl

end Function

namespace Tree

section Print

variable {t : Tree} (legible : t.Legible)

include legible in
theorem written_print : t.bracketed.Written (tokens t.print) := by
  have pieces := piece_pieces (legible_bracketed legible)
  have printed : tokens t.print = spread t.bracketed.pieces := by
    rw [print, ← join_spread]
    exact tokens_joined (canonical_spread pieces)
  refine ⟨(canonical_tokens t.print).start, fits_bracketed legible (by simp), ?_⟩
  rw [printed, bare_spread pieces, flatten_pieces]

include legible in
theorem tokens_print_ne_nil : tokens t.print ≠ [] := by
  intro blank
  have yield := (written_print legible).yield
  rw [blank] at yield
  exact yield_ne_nil (legible_bracketed legible) yield.symm

variable {scope : Scope}

include legible in
theorem evaluate_print_ok {v : Value} (value : t.value scope = .ok v) :
    evaluate ⟨scope, false⟩ t.print = v := by
  rw [← value_bracketed] at value
  exact evaluate_of_ofTokens (tokens_print_ne_nil legible)
    ((written_print legible).ofTokens_eq_value value)

include legible in
theorem evaluate_print_error {f : Fault} (fails : t.value scope = .error f) :
    evaluate ⟨scope, false⟩ t.print = .valueError := by
  rw [← value_bracketed] at fails
  exact evaluate_of_outcome (tokens_print_ne_nil legible)
    ((written_print legible).outcome_eq_error fails)

include legible in
theorem outcome_print :
    (Run.ofTokens ⟨scope, false⟩ (tokens t.print)).outcome = t.value scope := by
  rw [← value_bracketed]
  cases value : t.bracketed.value scope with
  | ok v => rw [(written_print legible).ofTokens_eq_value value]
  | error f => exact (written_print legible).outcome_eq_error value

end Print

section Recovery

variable {e f : Tree} {scope : Scope}

def isErrorOf (e : Tree) : Tree := .call "ISERROR" [e]

def ifErrorOf (e f : Tree) : Tree := .call "IFERROR" [e, f]

theorem legible_isErrorOf (legible : e.Legible) : (isErrorOf e).Legible :=
  ⟨⟨by decide, by decide⟩, legible, trivial⟩

theorem legible_ifErrorOf (legible : e.Legible) (legible' : f.Legible) :
    (ifErrorOf e f).Legible :=
  ⟨⟨by decide, by decide⟩, legible, legible', trivial⟩

theorem value_isErrorOf {v : Value} (value : e.value scope = .ok v) :
    (isErrorOf e).value scope = .ok (.boolean v.isError) := by
  rw [← Function.value_isError, isErrorOf, Tree.value, values, value]
  rfl

theorem value_ifErrorOf {v w : Value} (value : e.value scope = .ok v)
    (value' : f.value scope = .ok w) (sound : w.isError = false) :
    (ifErrorOf e f).value scope = .ok (if v.isError then w else v) := by
  rw [← Function.value_ifError v w sound, ifErrorOf, Tree.value, values, value, values, value']
  rfl

theorem value_call_error {name : String} {fault : Fault} (fails : e.value scope = .error fault)
    (ts : List Tree) : (Tree.call name (e :: ts)).value scope = .error fault := by
  rw [Tree.value, values, fails]
  rfl

/-- `ISERROR` and `IFERROR` see every error that an expression comes to without a fault. An
expression that ends in a fault is `#VALUE` itself and makes `#VALUE` of both. -/
theorem recovers_values (legible : e.Legible) (legible' : f.Legible) (scope : Scope)
    (sound : (evaluate ⟨scope, false⟩ f.print).isError = false) :
    (∀ v, (Run.ofTokens ⟨scope, false⟩ (tokens e.print)).outcome = .ok v →
      evaluate ⟨scope, false⟩ (isErrorOf e).print =
          .boolean (evaluate ⟨scope, false⟩ e.print).isError ∧
        evaluate ⟨scope, false⟩ (ifErrorOf e f).print =
          if (evaluate ⟨scope, false⟩ e.print).isError then evaluate ⟨scope, false⟩ f.print
          else evaluate ⟨scope, false⟩ e.print) ∧
    ∀ fault, (Run.ofTokens ⟨scope, false⟩ (tokens e.print)).outcome = .error fault →
      evaluate ⟨scope, false⟩ e.print = .valueError ∧
        evaluate ⟨scope, false⟩ (isErrorOf e).print = .valueError ∧
        evaluate ⟨scope, false⟩ (ifErrorOf e f).print = .valueError := by
  rw [outcome_print legible]
  obtain ⟨w, fallback⟩ : ∃ w, f.value scope = .ok w := by
    cases fallback : f.value scope with
    | ok w => exact ⟨w, rfl⟩
    | error fault =>
        rw [evaluate_print_error legible' fallback] at sound
        cases sound
  rw [evaluate_print_ok legible' fallback] at sound ⊢
  refine ⟨fun v value => ?_, fun fault fails => ?_⟩
  · rw [evaluate_print_ok legible value]
    exact ⟨evaluate_print_ok (legible_isErrorOf legible) (value_isErrorOf value),
      evaluate_print_ok (legible_ifErrorOf legible legible') (value_ifErrorOf value fallback sound)⟩
  · exact ⟨evaluate_print_error legible fails,
      evaluate_print_error (legible_isErrorOf legible) (value_call_error fails []),
      evaluate_print_error (legible_ifErrorOf legible legible') (value_call_error fails [f])⟩

theorem recovers_values_both :
    evaluate ⟨[], false⟩ (isErrorOf (.name "x")).print = .boolean true ∧
      evaluate ⟨[], false⟩ (ifErrorOf (.name "x") (literal "b")).print = .string "b" ∧
      evaluate ⟨[], false⟩
        (ifErrorOf (.binary (.compare .less) (literal "a") (.number "1")) (literal "b")).print =
          .valueError := by
  have fallback : (literal "b").Legible := ⟨"b", by decide, by decide, rfl⟩
  have name : (Tree.name "x").Legible := ⟨by decide, by decide⟩
  have order : (Tree.binary (.compare .less) (literal "a") (.number "1")).Legible :=
    ⟨⟨"a", by decide, by decide, rfl⟩, by decide, by decide⟩
  have sound : (evaluate ⟨[], false⟩ (literal "b").print).isError = false := by rfl
  have seen := (recovers_values name fallback [] sound).1 .nameError (by rfl)
  have unseen := (recovers_values order fallback [] sound).2 .unordered (by rfl)
  exact ⟨seen.1, seen.2, unseen.2.2⟩

theorem isError_misses_fault :
    (Tree.binary (.compare .less) (literal "a") (.number "1")).Legible ∧
      (isErrorOf (.binary (.compare .less) (literal "a") (.number "1"))).print =
        "ISERROR ( \"a\" < 1 )" ∧
      (evaluate ⟨[], false⟩ (Tree.binary (.compare .less) (literal "a") (.number "1")).print).isError =
        true ∧
      evaluate ⟨[], false⟩
        (isErrorOf (.binary (.compare .less) (literal "a") (.number "1"))).print ≠ .boolean true := by
  refine ⟨⟨⟨"a", by decide, by decide, rfl⟩, by decide, by decide⟩, by rfl, by rfl, ?_⟩
  have fails : evaluate ⟨[], false⟩
      (isErrorOf (.binary (.compare .less) (literal "a") (.number "1"))).print = .valueError := by rfl
  rw [fails]
  rintro ⟨⟩

end Recovery

end Tree

end Formulary
