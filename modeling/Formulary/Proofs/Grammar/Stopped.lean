import Formulary.Proofs.Grammar.Viable
import Formulary.Proofs.Grammar.Written
import Formulary.Proofs.Tokens.Front

set_option autoImplicit false

namespace Formulary

open Tape Rule Token

section Missed

variable (depth : Nat) {read us vs : List Token} {m : Separator}

theorem bare_missed (missed : Missed m (bare false us)) (settled : Settled us)
    (closed : quotedAfter false (vs ++ .mark m :: List.replicate depth (.mark .rightBracket)) = false)
    (whole : bare false (read ++ us) = vs ++ bare false us) :
    bare false (read ++ .mark m :: List.replicate depth (.mark .rightBracket)) =
      vs ++ .mark m :: List.replicate depth (.mark .rightBracket) := by
  rw [quotedAfter_append] at closed
  obtain rfl | ⟨rfl, empty⟩ := missed
  · rw [quotedAfter, if_neg (by decide), quotedAfter_brackets] at closed
    obtain ⟨same, outside⟩ := bare_front closed whole
    rw [bare_append, same, outside, bare_cons (by decide) (by decide), bare_brackets]
  · rw [quotedAfter, if_pos rfl, quotedAfter_brackets, Bool.not_eq_false'] at closed
    obtain rfl : us = [] := (settled_tokens_bare settled).mp empty
    rw [bare_nil, List.append_nil, List.append_nil] at whole
    have inside : quotedAfter false read = true := by rw [← quotedAfter_bare, whole, closed]
    rw [bare_append, whole, inside, bare_quote, Bool.not_true, bare_brackets]

end Missed

section Values

variable {α β : Type}

theorem Tame.bind {m : Except Fault α} {f : α → Except Fault β} (first : Tame m)
    (next : ∀ a, Tame (f a)) : Tame (m >>= f) := by
  cases m with
  | ok a => exact next a
  | error f =>
      intro g fails
      cases fails
      exact first f rfl

theorem tame_ok (a : α) : Tame (Except.ok a : Except Fault α) := by
  intro f fails
  cases fails

theorem Tree.tame_values {scope : Scope} (ts : List Tree) (each : ∀ t ∈ ts, Tame (t.value scope)) :
    Tame (values scope ts) := by
  induction ts with
  | nil => exact tame_ok []
  | cons t ts ih =>
      apply (each t (List.mem_cons_self ..)).bind
      intro v
      exact (ih fun u mem => each u (List.mem_cons_of_mem _ mem)).bind fun vs => tame_ok (v :: vs)

theorem Tree.tame_value (scope : Scope) (t : Tree) : Tame (t.value scope) := by
  induction t with
  | missing => exact tame_ok _
  | number w => exact tame_ok _
  | keyword w => exact tame_ok _
  | text content => exact tame_ok _
  | name x => exact tame_read scope x
  | sign o t ih => exact ih.bind fun v => tame_ok _
  | bracket t ih => exact ih
  | binary op a b iha ihb => exact iha.bind fun va => ihb.bind fun vb => tame_join op va vb
  | call f args ih =>
      rw [Tree.value]
      apply (tame_values args ih).bind
      intro vs
      rw [← answer_eq]
      exact tame_answer f vs _

end Values

structure Run.Complete (r : Run) (size : Nat) : Prop where
  closed : ∀ m found, r.outcome ≠ .error (.unexpected m found)
  read : ∀ v, r.outcome = .ok v → r.position = size

section Runs

variable {scope : Scope} {read us : List Token}

theorem Tree.Written.complete {t : Tree} {ts : List Token} (written : t.Written ts) :
    (Run.ofTokens ⟨scope, false⟩ ts).Complete ts.length := by
  cases value : t.value scope with
  | ok v =>
      rw [written.ofTokens_eq_value value]
      exact ⟨by simp, by simp⟩
  | error f =>
      have outcome := written.outcome_eq_error value
      have data := t.tame_value scope f value
      refine ⟨fun m found missed => ?_, fun v ended => ?_⟩
      · rw [outcome] at missed
        cases missed
        cases data
      · rw [outcome] at ended
        cases ended

theorem front_alone (canonical : Canonical (read ++ us)) {v : Value}
    (run : (whole ⟨scope, false⟩).run (read ++ us) = .ok v us) :
    let ts := tokens (String.join (read.map text))
    (ts = read ∨ ts ++ [.mark .space] = read) ∧
      Run.ofTokens ⟨scope, false⟩ ts = ⟨.ok v, ts.length⟩ := by
  have agree := Pairing.lockstep_bare ⟨scope, false⟩ canonical.start
  rw [run] at agree
  obtain ⟨vs, run', -, rfl, -⟩ := agree.ok_left
  obtain ⟨t, written, fits, value⟩ := parses_whole (σ := List Token) rfl run' (bare_bare false _)
  obtain ⟨same, outside⟩ := bare_front (t.quotedAfter_yield fits) written
  obtain ⟨ts, alone, canonical', split⟩ := tokens_front canonical
  have yield : bare false ts = t.yield := by
    obtain rfl | rfl := split
    · exact same
    · rw [quotedAfter_append] at outside
      rw [bare_append] at same
      have closed : quotedAfter false ts = false := by simpa [quotedAfter] using outside
      simpa [closed] using same
  rw [alone]
  have written' : t.Written ts := ⟨canonical'.start, Tree.fits_alone fits, yield⟩
  exact ⟨split, written'.ofTokens_eq_value value⟩

theorem front_continued (canonical : Canonical (read ++ us)) {m : Separator} {found : Option Token}
    (run : (whole ⟨scope, false⟩).run (read ++ us) = .error (.unexpected m found) us) :
    ∃ more, read <+: tokens (String.join (read.map text) ++ more) ∧
      (Run.ofTokens ⟨scope, false⟩ (tokens (String.join (read.map text) ++ more))).Complete
        (tokens (String.join (read.map text) ++ more)).length := by
  have agree := Pairing.lockstep_bare ⟨scope, false⟩ canonical.start
  rw [run] at agree
  cases run' : (whole ⟨scope, false⟩).run (bare false (read ++ us)) with
  | ok v vs =>
      rw [run'] at agree
      exact agree.elim
  | error f vs =>
      rw [run'] at agree
      obtain ⟨rfl, settled, rfl, -⟩ := agree
      obtain ⟨missed, vs, depth, t, written, yield, -, fits⟩ :=
        completes_whole (σ := List Token) rfl (bare_bare false _) run'
      -- What is put behind are quotes and brackets, which no token in front of them joins with.
      have solid : ∀ t ∈ Token.mark m :: List.replicate depth (.mark .rightBracket),
          ∃ m, Solid m ∧ t = .mark m := by
        intro t mem
        obtain rfl | mem := List.mem_cons.mp mem
        · obtain rfl | ⟨rfl, -⟩ := missed
          · exact ⟨_, .inr (.inr rfl), rfl⟩
          · exact ⟨_, .inl rfl, rfl⟩
        · exact ⟨_, .inr (.inr rfl), List.eq_of_mem_replicate mem⟩
      have continued := canonical_solid canonical solid (by simp)
      have split := tokens_joined continued
      rw [join_append] at split
      refine ⟨_, split ▸ List.prefix_append _ _, ?_⟩
      rw [split]
      have closed := t.quotedAfter_yield (fits [])
      rw [yield] at closed
      have bared := bare_missed depth missed settled closed written
      exact Tree.Written.complete ⟨continued.start, fits [], bared.trans yield.symm⟩

end Runs

theorem take_position (setting : Setting) (ts : List Token) :
    ts.take (Run.ofTokens setting ts).position ++ Cursor.last ((whole setting).run ts) = ts := by
  have suffix : Cursor.last ((whole setting).run ts) <:+ ts := shrinks_whole setting ts
  rw [position_ofTokens]
  conv_lhs => rhs; rw [List.suffix_iff_eq_drop.mp suffix]
  exact List.take_append_drop _ _

/-- Default mode stops where an expression goes wrong. What it has read before tokens that are left
over has the value that the whole does not get; what it has read before a mark that is missing can
be gone on with to an expression that lacks none. -/
theorem stops_where_wrong (scope : Scope) (e : String) {r : Run}
    (run : Run.ofTokens ⟨scope, false⟩ (tokens e) = r) :
    (∀ v, r.outcome = .ok v → 0 < r.position → r.position < (tokens e).length →
      evaluate ⟨scope, false⟩ e = .tokenError ∧
      (tokens (front e r.position) = (tokens e).take r.position ∨
        tokens (front e r.position) ++ [.mark .space] = (tokens e).take r.position) ∧
      Run.ofTokens ⟨scope, false⟩ (tokens (front e r.position)) =
        ⟨.ok v, (tokens (front e r.position)).length⟩ ∧
      evaluate ⟨scope, false⟩ (front e r.position) = v) ∧
    ∀ m found, r.outcome = .error (.unexpected m found) →
      ∃ more, (tokens e).take r.position <+: tokens (front e r.position ++ more) ∧
        (Run.ofTokens ⟨scope, false⟩ (tokens (front e r.position ++ more))).Complete
          (tokens (front e r.position ++ more)).length := by
  subst run
  have canonical := canonical_tokens e
  have split := take_position ⟨scope, false⟩ (tokens e)
  rw [outcome_ofTokens]
  generalize (Run.ofTokens ⟨scope, false⟩ (tokens e)).position = p at split ⊢
  cases run : (whole ⟨scope, false⟩).run (tokens e) with
  | ok w us =>
      have split : (tokens e).take p ++ us = tokens e := by rwa [run] at split
      refine ⟨?_, by simp⟩
      rintro v same moved early
      cases same
      have given : tokens e ≠ [] := List.ne_nil_of_length_pos (by omega)
      have read : (tokens e).take p ≠ [] := by simp [given, Nat.ne_of_gt moved]
      -- A run that stops early leaves tokens over, and for these the whole is an error.
      have left : us ≠ [] := by
        rintro rfl
        have sizes := congrArg List.length split
        rw [List.append_nil, List.length_take] at sizes
        omega
      rw [← split] at canonical
      obtain ⟨cut, alone⟩ := front_alone canonical (split.symm ▸ run)
      refine ⟨?_, cut, alone, evaluate_of_ofTokens (tokens_front_ne_nil canonical read) alone⟩
      rw [evaluate_eq_verdict _ given, run, verdict, rest_list, if_neg left]
  | error f us =>
      have split : (tokens e).take p ++ us = tokens e := by rwa [run] at split
      refine ⟨by simp, ?_⟩
      rintro m found same
      cases same
      exact front_continued (split.symm ▸ canonical) (split.symm ▸ run)

theorem stops_where_wrong_left_over :
    (evaluate ⟨[], false⟩ "\"a\" 2" = .tokenError ∧ front "\"a\" 2" 4 = "\"a\" " ∧
      evaluate ⟨[], false⟩ (front "\"a\" 2" 4) = .string "a") ∧
    ∃ more, (tokens "(\"a\" 2").take 5 <+: tokens (front "(\"a\" 2" 5 ++ more) ∧
      (Run.ofTokens ⟨[], false⟩ (tokens (front "(\"a\" 2" 5 ++ more))).Complete
        (tokens (front "(\"a\" 2" 5 ++ more)).length := by
  have left : Run.ofTokens ⟨[], false⟩ (tokens "\"a\" 2") = ⟨.ok (.string "a"), 4⟩ := by rfl
  have missed : Run.ofTokens ⟨[], false⟩ (tokens "(\"a\" 2") =
      ⟨.error (.unexpected .rightBracket (some (.word "2"))), 5⟩ := by rfl
  obtain ⟨wrong, -, -, value⟩ :=
    (stops_where_wrong [] "\"a\" 2" left).1 _ rfl (by decide) (by decide)
  exact ⟨⟨wrong, by rfl, value⟩, (stops_where_wrong [] "(\"a\" 2" missed).2 _ _ rfl⟩

end Formulary
