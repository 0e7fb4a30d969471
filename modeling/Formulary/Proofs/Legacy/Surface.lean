import Formulary.Proofs.Legacy.Stray

set_option autoImplicit false

namespace Formulary

open Tape Rule Token

theorem noted_record (setting : Setting) : Noted (fun r : Record => r.cut = true) setting where
  course := ⟨fun _ h => h, fun first second h => second (first h), fun _ _ h => h, fun _ _ => rfl⟩
  cut _ _ := rfl

theorem linked_cut : Pairing.Linked fun r r' : Record => r.cut = r'.cut :=
  ⟨fun h _ => h, fun _ => rfl⟩

/-- Whether a legacy run leaves a call unread: for a function that is not there, or for an error
among the arguments that is refused. -/
def returnsEarly (scope : Scope) (ts : List Token) : Bool :=
  (Cursor.last ((formula ⟨scope, true⟩ ts.length).run (⟨ts, false⟩ : Record))).cut

theorem agree_record (setting : Setting) (ts : List Token) :
    (Pairing.alike fun (_ : List Token) (_ : Record) => True).Agree ((whole setting).run ts)
      ((whole setting).run (⟨ts, false⟩ : Record)) :=
  lockstep_alike Pairing.linked_true setting ts (⟨ts, false⟩ : Record) ⟨rfl, trivial⟩

theorem Gives.of_stripped {r r' : EStateM.Result Fault Record Value} {e : Except Fault Value}
    (agree : (Pairing.stripped fun r r' : Record => r.cut = r'.cut).Agree r r')
    (gives : Gives (fun r : Record => r.cut = true) e [] r') :
    Gives (fun r : Record => r.cut = true) e [] r := by
  cases r with
  | ok v u =>
      cases r' with
      | error f u' => exact agree.elim
      | ok v' u' =>
          obtain ⟨rfl, settled, left, same⟩ := agree
          obtain cut | ⟨value, read⟩ := gives
          · exact .inl (same.trans cut)
          · exact .inr ⟨value, (settled_tokens_bare settled).mp (left.symm.trans read)⟩
  | error f u =>
      cases r' with
      | ok v' u' => exact agree.elim
      | error f' u' =>
          obtain ⟨rfl, -, -, same⟩ := agree
          obtain cut | value := gives
          · exact .inl (same.trans cut)
          · exact .inr value

/-- A legacy run that leaves no call unread finds the value of the tree. -/
theorem legacy_gives_value {scope : Scope} {ts : List Token} (settled : Settled ts) {t : Tree}
    (fits : t.Fits []) (yield : t.yield = bare false ts) {v : Value}
    (value : t.value scope = .ok v) (uncut : returnsEarly scope ts = false) :
    (whole ⟨scope, true⟩).run ts = .ok v [] := by
  have plain := agree_record ⟨scope, true⟩ ts
  have bared := Pairing.lockstep_stripped linked_cut ⟨scope, true⟩ ⟨ts, false⟩
    ⟨bare false ts, false⟩ ⟨settled, rfl, rfl⟩
  have gives := gives_whole (noted_record ⟨scope, true⟩) fits (by simp [Settled]) (stops_nil 0)
    (s := ⟨bare false ts, false⟩) (by simp [yield])
  rw [value] at gives
  change (Cursor.last ((whole ⟨scope, true⟩).run (⟨ts, false⟩ : Record))).cut = false at uncut
  obtain ⟨u, run, read⟩ := (gives.of_stripped bared).eq_ok (by simp [uncut])
  rw [run] at plain
  obtain ⟨us, run', left, -⟩ := plain.ok_right
  have empty : us = [] := left.trans read
  rw [run', empty]

/-- A legacy run that leaves a call unread does not come to the end of balanced brackets. -/
theorem unread_call_stops_early {scope : Scope} {ts : List Token} (balanced : Token.Balanced ts)
    (cut : returnsEarly scope ts = true) (v : Value) :
    (whole ⟨scope, true⟩).run ts ≠ .ok v [] := by
  intro run
  have plain := agree_record ⟨scope, true⟩ ts
  change (Cursor.last ((whole ⟨scope, true⟩).run (⟨ts, false⟩ : Record))).cut = true at cut
  rw [run] at plain
  obtain ⟨u, run', read, -⟩ := plain.ok_left
  rw [run'] at cut
  obtain ⟨k, counts, flag⟩ := strays_whole run'
  have empty : u.tokens = [] := read.symm
  have count := counts 0
  rw [empty] at count flag
  -- At the end no bracket of the expression is open and none is left to read.
  obtain same | more | stands := flag
  · rw [show u.cut = true from cut] at same
    cases same
  · have unbalanced : (0 + k == 0) = false := by
      rw [beq_eq_false_iff_ne]
      omega
    rw [closes, unbalanced] at count
    exact absurd (balanced.symm.trans count) (by decide)
  · cases stands

/-- Where default mode reads everything without a fault, legacy mode finds the same value. If it
leaves a call unread, though, it ends with tokens left over or in a fault. -/
theorem legacy_surfaces (scope : Scope) (e : String) {v : Value}
    (run : Run.ofTokens ⟨scope, false⟩ (tokens e) = ⟨.ok v, (tokens e).length⟩) :
    (returnsEarly scope (tokens e) = false →
      evaluate ⟨scope, true⟩ e = evaluate ⟨scope, false⟩ e) ∧
    (returnsEarly scope (tokens e) = true →
      match (Run.ofTokens ⟨scope, true⟩ (tokens e)).outcome with
      | .ok _ =>
          (Run.ofTokens ⟨scope, true⟩ (tokens e)).position < (tokens e).length ∧
            evaluate ⟨scope, true⟩ e = .tokenError
      | .error _ => evaluate ⟨scope, true⟩ e = .valueError) := by
  rw [ofTokens_eq_ok] at run
  obtain ⟨t, fits, yield, value⟩ := tree_of_whole (canonical_tokens e).start run
  -- Blanks alone are not read at all.
  by_cases given : tokens e = []
  · have blank : returnsEarly scope (tokens e) = false := by rw [given]; rfl
    refine ⟨fun _ => by simp [evaluate, given], fun cut => ?_⟩
    rw [blank] at cut
    cases cut
  rw [evaluate_eq_verdict _ given, evaluate_eq_verdict _ given, run]
  constructor
  · intro uncut
    rw [legacy_gives_value (canonical_tokens e).start fits yield value uncut]
  · intro cut
    have left := unread_call_stops_early (balanced_of_tree fits yield) cut
    have same : (formula ⟨scope, true⟩ (tokens e).length).run (tokens e) =
        (whole ⟨scope, true⟩).run (tokens e) := rfl
    have suffix := shrinks_whole ⟨scope, true⟩ (tokens e)
    rw [Run.ofTokens, same]
    cases run' : (whole ⟨scope, true⟩).run (tokens e) with
    | error f us => rfl
    | ok w us =>
        rw [run'] at suffix
        have suffix : us <:+ tokens e := suffix
        have unread : us ≠ [] := by
          rintro rfl
          exact left w run'
        refine ⟨(position_lt suffix).mpr unread, ?_⟩
        rw [verdict, rest_list, if_neg unread]

theorem legacy_surfaces_unknown :
    evaluate ⟨[], false⟩ "ISERROR(NOPE(1))" = .boolean true ∧
      evaluate ⟨[], true⟩ "ISERROR(NOPE(1))" = .valueError := by
  have surfaces := legacy_surfaces [] "ISERROR(NOPE(1))" (v := .boolean true) (by rfl)
  exact ⟨by rfl, surfaces.2 (by rfl)⟩

end Formulary
