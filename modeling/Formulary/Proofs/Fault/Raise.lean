import Formulary.Proofs.Fault.Reach
import Formulary.Proofs.Reading.Verdict

set_option autoImplicit false

namespace Formulary

open Tape Rule Token

variable {σ : Type} [Tape σ] {setting : Setting} {start : σ}

def Admitted (name : String) (args : List Value) : Prop :=
  ∀ position v, args[position]? = some v → v.isError = true → Function.admits name position = true

def Place.Sifted : Place → Prop
  | .argument name args refused | .answer name args refused => refused = none → Admitted name args
  | _ => True

theorem admitted_nil (name : String) : Admitted name [] := by
  intro position v given
  simp at given

theorem admitted_after {name : String} {args : List Value} {refused : Option Value} {v : Value}
    (sifted : refused = none → Admitted name args)
    (none : refusedAfter (Function.admits name) args refused v = none) :
    Admitted name (args ++ [v]) := by
  unfold refusedAfter at none
  split at none
  · cases none
  · rename_i kept
    intro position w given error
    rw [List.getElem?_append] at given
    split at given
    · exact sifted none position w given error
    · have last : position = args.length ∧ w = v := by
        rw [List.getElem?_singleton] at given
        split at given
        · rename_i here
          cases given
          exact ⟨by omega, rfl⟩
        · cases given
      obtain ⟨rfl, rfl⟩ := last
      simpa [error, none] using kept

theorem sifted_of_reaches {p : Place} {s : σ} (reached : Reaches setting start p s) : p.Sifted := by
  induction reached with
  | noArguments | arguments => exact fun _ => admitted_nil _
  | another _ _ _ _ sifted | answer _ _ _ _ sifted => exact fun none => admitted_after sifted none
  | _ => trivial

theorem answer_ok_of_reaches {name : String} {args : List Value} {refused : Option Value} {s : σ}
    (reached : Reaches setting start (.answer name args refused) s) :
    ∃ v, answer (Function.builtIn.find? name) args refused = .ok v := by
  cases fails : answer (Function.builtIn.find? name) args refused with
  | ok v => exact ⟨v, rfl⟩
  | error f =>
      obtain ⟨none, signature, known, enough, failure⟩ := answer_eq_error fails
      have admitted : Admitted name args := sifted_of_reaches reached none
      exfalso
      cases failure with
      | missing few => omega
      | short few => omega
      | untrue given refuses =>
          have admits := admitted _ _ given rfl
          simp [Function.admits, known, refuses] at admits

theorem demand_mark {m : Separator} {s : σ} (reached : Reaches setting start (.demand m) s) :
    m = .rightBracket ∨ m = .quote := by
  cases reached with
  | closing | lastArgument => exact .inl rfl
  | quotation => exact .inr rfl

theorem mixed_iff {a b : Value} (left : a.isError = false) (right : b.isError = false) :
    (Comparison.textOf? a).isSome ≠ (Comparison.textOf? b).isSome ↔
      (a.tag = .string ↔ ¬b.tag = .string) := by
  cases a <;> cases b <;> simp_all [Comparison.textOf?, Value.tag]

/-- The ways in which a run can fail: a bracket or a quotation is not closed where it has to be, a
text is put in order with something else, or a name is bound to data that are no value. -/
inductive Hazard (setting : Setting) (start : List Token) : Fault → Prop where
  | unclosed {m : Separator} {ts : List Token} (reached : Reaches setting start (.demand m) ts)
      (mark : m = .rightBracket ∨ m = .quote) (missing : ts.head? ≠ some (.mark m)) :
      Hazard setting start (.unexpected m ts.head?)
  | unordered {op : Operation} {a b : Value} {ts : List Token}
      (reached : Reaches setting start (.combine op a b) ts) (order : op.isOrder = true)
      (left : a.isError = false) (right : b.isError = false)
      (mixed : a.tag = .string ↔ ¬b.tag = .string) : Hazard setting start .unordered
  | foreign {x : String} {d : Datum} {ts : List Token} {f : Fault}
      (reached : Reaches setting start (.lookup x) ts) (bound : setting.scope.lookup x = some d)
      (foreign : d.Foreign) (fails : d.toValue = .error f) : Hazard setting start f

theorem hazard_iff_meets (setting : Setting) (ts : List Token) (f : Fault) :
    Hazard setting ts f ↔ Meets setting ts f := by
  constructor
  · rintro (⟨reached, -, missing⟩ | ⟨reached, order, left, right, mixed⟩ |
      ⟨reached, bound, foreign, fails⟩)
    · exact ⟨_, _, reached, rfl, missing, rfl⟩
    · have unanswered := (mixed_iff left right).mpr mixed
      exact ⟨_, _, reached, rfl, join_eq_error.mpr ⟨rfl, left, right, order, unanswered⟩⟩
    · exact ⟨_, _, reached, rfl, Scope.read_eq_error.mpr ⟨_, bound, foreign, fails⟩⟩
  · rintro ⟨p, us, reached, act, faults⟩
    cases p with
    | demand m =>
        obtain ⟨missing, rfl⟩ := faults
        exact .unclosed reached (demand_mark reached) missing
    | combine op a b =>
        obtain ⟨rfl, left, right, order, mixed⟩ := join_eq_error.mp faults
        exact .unordered reached order left right ((mixed_iff left right).mp mixed)
    | literal w => cases (numeral_eq w).symm.trans faults
    | lookup x =>
        obtain ⟨d, bound, foreign, fails⟩ := Scope.read_eq_error.mp faults
        exact .foreign reached bound foreign fails
    | answer name args refused =>
        obtain ⟨v, given⟩ := answer_ok_of_reaches reached
        rw [show answer _ _ _ = .error f from faults] at given
        cases given
    | tier | chain | call | argument => cases act

/-- An evaluation is given up in three ways and no other. Literals, arithmetic, powers, joining of
texts and equality always have a value, and so has every call whose arguments have been read. -/
theorem fault_iff_hazard (setting : Setting) (e : String) :
    (∀ f, (Run.ofTokens setting (tokens e)).outcome = .error f ↔ Hazard setting (tokens e) f) ∧
    (∀ op a b ts, Reaches setting (tokens e) (.combine op a b) ts → op.isOrder = false →
      ∃ v, join Operation.apply op a b = .ok v) ∧
    (∀ w ts, Reaches setting (tokens e) (.literal w) ts → ∃ v, numeral w = .ok v) ∧
    (∀ name args refused ts, Reaches setting (tokens e) (.answer name args refused) ts →
      ∃ v, answer (Function.builtIn.find? name) args refused = .ok v) := by
  refine ⟨fun f => ?_, fun op a b ts _ other => ?_, fun w ts _ => ⟨_, numeral_eq w⟩,
    fun name args refused ts => answer_ok_of_reaches⟩
  · rw [hazard_iff_meets, ← faults_iff_meets, outcome_ofTokens]
    cases (whole setting).run (tokens e) <;> simp
  · obtain ⟨v, applied⟩ := Operation.apply_unordered other a b
    unfold join
    split
    · exact ⟨a, rfl⟩
    · split
      · exact ⟨b, rfl⟩
      · exact ⟨v, applied⟩

theorem fault_iff_hazard_order :
    (Run.ofTokens ⟨[], false⟩ (tokens "\"a\"<1")).outcome = .error .unordered ∧
      Hazard ⟨[], false⟩ (tokens "\"a\"<1") .unordered := by
  have fails : (Run.ofTokens ⟨[], false⟩ (tokens "\"a\"<1")).outcome = .error .unordered := by rfl
  exact ⟨fails, ((fault_iff_hazard ⟨[], false⟩ "\"a\"<1").1 .unordered).mp fails⟩

end Formulary
