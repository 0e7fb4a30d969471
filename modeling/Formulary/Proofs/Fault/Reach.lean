import Formulary.Proofs.Fault.Causes
import Formulary.Proofs.Grammar.Complete

set_option autoImplicit false

namespace Formulary

open Tape Rule Token

inductive Place where
  -- Something of this tier is about to be read,
  | tier (k : Nat)
  -- or an operation of the tier, behind operands that come to a value.
  | chain (k : Nat) (a : Value)
  | call (name : String)
  | argument (name : String) (args : List Value) (refused : Option Value)
  | combine (op : Operation) (a b : Value)
  | demand (m : Separator)
  | literal (w : String)
  | lookup (x : String)
  | answer (name : String) (args : List Value) (refused : Option Value)

variable {σ : Type} [Tape σ]

def leaves (setting : Setting) (name : String) (args : List Value) (refused : Option Value)
    (v : Value) : Bool :=
  v.isError && !Function.admits name args.length && refused.isNone && setting.legacy

def enters (setting : Setting) (name : String) : Bool :=
  (Function.builtIn.find? name).isSome || !setting.legacy

/-- The places that a run from a tape comes to, and the tapes that it has there. -/
inductive Reaches (setting : Setting) (start : σ) : Place → σ → Prop where
  | start : Reaches setting start (.tier 0) start
  | first {k : Nat} {s : σ} (low : k < 4) (here : Reaches setting start (.tier k) s) :
      Reaches setting start (.tier (k + 1)) s
  | chain {k : Nat} {a : Value} {s t : σ} (low : k < 4)
      (here : Reaches setting start (.tier k) s) (run : (rung setting (k + 1)).run s = .ok a t) :
      Reaches setting start (.chain k a) t
  | next {k : Nat} {a : Value} {op : Operation} {s : σ} (here : Reaches setting start (.chain k a) s)
      (found : (rest s).head?.bind (Operation.on k) = some op) :
      Reaches setting start (.tier (k + 1)) (advanced s)
  | combine {k : Nat} {a b : Value} {op : Operation} {s t : σ}
      (here : Reaches setting start (.chain k a) s)
      (found : (rest s).head?.bind (Operation.on k) = some op)
      (run : (rung setting (k + 1)).run (advanced s) = .ok b t) :
      Reaches setting start (.combine op a b) t
  | onward {k : Nat} {a b c : Value} {op : Operation} {s t : σ}
      (here : Reaches setting start (.chain k a) s)
      (found : (rest s).head?.bind (Operation.on k) = some op)
      (run : (rung setting (k + 1)).run (advanced s) = .ok b t)
      (joined : join Operation.apply op a b = .ok c) : Reaches setting start (.chain k c) t
  | base {s : σ} (here : Reaches setting start (.tier 4) s) : Reaches setting start (.tier 5) s
  | exponent {a : Value} {s t : σ} (here : Reaches setting start (.tier 4) s)
      (run : (rung setting 5).run s = .ok a t) (caret : (rest t).head? = some (.mark .caret)) :
      Reaches setting start (.tier 4) (advanced t)
  | raise {a b : Value} {s t u : σ} (here : Reaches setting start (.tier 4) s)
      (run : (rung setting 5).run s = .ok a t) (caret : (rest t).head? = some (.mark .caret))
      (run' : (rung setting 4).run (advanced t) = .ok b u) :
      Reaches setting start (.combine .power a b) u
  | sign {o : Operator.Additive} {s : σ} (here : Reaches setting start (.tier 5) s)
      (head : (rest s).head?.bind Operator.additive? = some o) :
      Reaches setting start (.tier 5) (advanced s)
  | bracket {s : σ} (here : Reaches setting start (.tier 5) s)
      (opened : (rest s).head? = some (.mark .leftBracket)) :
      Reaches setting start (.tier 0) (advanced s)
  | closing {v : Value} {s t : σ} (here : Reaches setting start (.tier 5) s)
      (opened : (rest s).head? = some (.mark .leftBracket))
      (run : (rung setting 0).run (advanced s) = .ok v t) :
      Reaches setting start (.demand .rightBracket) t
  | quotation {s : σ} (here : Reaches setting start (.tier 5) s)
      (head : (rest s).head? = some (.mark .quote)) :
      Reaches setting start (.demand .quote) (Rule.closing s)
  | literal {w : String} {s : σ} (here : Reaches setting start (.tier 5) s)
      (head : (rest s).head? = some (.word w)) (starts : startsNumber w = true) :
      Reaches setting start (.literal w) (advanced s)
  | lookup {x : String} {s : σ} (here : Reaches setting start (.tier 5) s)
      (head : (rest s).head? = some (.word x)) (named : isName x = true)
      (unopened : (rest (advanced s)).head? ≠ some (.mark .leftBracket)) :
      Reaches setting start (.lookup x) (advanced s)
  | call {name : String} {s : σ} (here : Reaches setting start (.tier 5) s)
      (head : (rest s).head? = some (.word name)) (named : isName name = true)
      (opened : (rest (advanced s)).head? = some (.mark .leftBracket)) :
      Reaches setting start (.call name) (advanced s)
  | noArguments {name : String} {s : σ} (here : Reaches setting start (.call name) s)
      (entered : enters setting name = true)
      (closed : (rest (advanced s)).head? = some (.mark .rightBracket)) :
      Reaches setting start (.answer name [] none) (advanced (advanced s))
  | arguments {name : String} {s : σ} (here : Reaches setting start (.call name) s)
      (entered : enters setting name = true)
      (unclosed : (rest (advanced s)).head? ≠ some (.mark .rightBracket)) :
      Reaches setting start (.argument name [] none) (advanced s)
  | argument {name : String} {args : List Value} {refused : Option Value} {s : σ}
      (here : Reaches setting start (.argument name args refused) s) :
      Reaches setting start (.tier 0) s
  | another {name : String} {args : List Value} {refused : Option Value} {v : Value} {s t : σ}
      (here : Reaches setting start (.argument name args refused) s)
      (run : (rung setting 0).run s = .ok v t)
      (kept : leaves setting name args refused v = false)
      (comma : (rest t).head? = some (.mark .comma)) :
      Reaches setting start (.argument name (args ++ [v])
        (refusedAfter (Function.admits name) args refused v)) (advanced t)
  | lastArgument {name : String} {args : List Value} {refused : Option Value} {v : Value} {s t : σ}
      (here : Reaches setting start (.argument name args refused) s)
      (run : (rung setting 0).run s = .ok v t)
      (kept : leaves setting name args refused v = false)
      (last : (rest t).head? ≠ some (.mark .comma)) :
      Reaches setting start (.demand .rightBracket) t
  | answer {name : String} {args : List Value} {refused : Option Value} {v : Value} {s t : σ}
      (here : Reaches setting start (.argument name args refused) s)
      (run : (rung setting 0).run s = .ok v t)
      (kept : leaves setting name args refused v = false)
      (closed : (rest t).head? = some (.mark .rightBracket)) :
      Reaches setting start (.answer name (args ++ [v])
        (refusedAfter (Function.admits name) args refused v)) (advanced t)

def callFrom (setting : Setting) (name : String) (args : List Value) (refused : Option Value) :
    Cursor σ Value := do
  close (Function.builtIn.find? name)
    (← argumentsOn (whole setting) setting.legacy (Function.admits name) args refused)

def Place.Faults (setting : Setting) : Place → σ → Fault → Prop
  | .tier k, s, f => ∃ t, (rung setting k).run s = .error f t
  | .chain k a, s, f =>
      ∃ t, (chainOn (rung setting (k + 1)) (Operation.on k) Operation.apply a).run s = .error f t
  | .call name, s, f => ∃ t, (Rule.call setting.legacy (whole setting) name).run s = .error f t
  | .argument name args refused, s, f => ∃ t, (callFrom setting name args refused).run s = .error f t
  | .combine op a b, _, f => join Operation.apply op a b = .error f
  | .demand m, s, f => (rest s).head? ≠ some (.mark m) ∧ f = .unexpected m (rest s).head?
  | .literal w, _, f => Rule.numeral w = .error f
  | .lookup x, _, f => setting.scope.read x = .error f
  | .answer name args refused, _, f =>
      Rule.answer (Function.builtIn.find? name) args refused = .error f

variable {setting : Setting}

theorem shrinks_tier (k : Nat) : Shrinks (rung setting k : Cursor σ Value) := by
  by_cases le : k ≤ 5
  · exact shrinks_rung setting le
  · rw [rung, if_neg (by omega), if_neg (by omega), ← rung_five]
    exact shrinks_rung setting (Nat.le_refl 5)

theorem callFrom_eq (name : String) (args : List Value) (refused : Option Value) :
    (callFrom setting name args refused : Cursor σ Value) = (do
      let v ← whole setting
      close (Function.builtIn.find? name)
        (← argumentsAfter (whole setting) setting.legacy (Function.admits name) args refused v)) := by
  rw [callFrom, argumentsOn_eq (shrinks_whole setting), bind_assoc]

theorem run_opened {s : σ} (opened : (rest s).head? = some (.mark .leftBracket)) :
    (rung setting 5).run s = (do
      let v ← whole setting
      expect .rightBracket
      return v : Cursor σ Value).run (advanced s) := by
  rw [run_unsigned (by rw [opened]; rfl), atom, run_bind_ok (run_peek s), opened]
  dsimp only
  rw [bracket, run_bind_ok (run_advance s)]

theorem run_entered {name : String} (entered : enters setting name = true) (s : σ) :
    (Rule.call setting.legacy (whole setting) name).run s =
      (do close (Function.builtIn.find? name) (← listed (whole setting) setting.legacy
          (Function.admits name)) : Cursor σ Value).run (advanced s) := by
  have reads : ((Function.builtIn.find? name).isNone && setting.legacy) = false := by
    unfold enters at entered
    cases known : Function.builtIn.find? name <;> simp_all
  rw [call_eq, if_neg (by simp [reads]), run_bind_ok (run_advance s)]

theorem run_unentered {name : String} (unentered : enters setting name = false) (s : σ) :
    (Rule.call setting.legacy (whole setting) name).run s = .ok .nameError (Tape.cut s) := by
  have leaves : ((Function.builtIn.find? name).isNone && setting.legacy) = true := by
    unfold enters at unentered
    cases known : Function.builtIn.find? name <;> simp_all
  rw [call_eq, if_pos leaves]
  rfl

theorem run_literal {w : String} (starts : startsNumber w = true) {s : σ}
    (head : (rest s).head? = some (.word w)) :
    (rung setting 5).run s = (lift (numeral w) : Cursor σ Value).run (advanced s) := by
  rw [run_rung_word head, Rule.word, if_pos starts, run_bind_ok (run_advance s)]

theorem run_noArguments {name : String} (entered : enters setting name = true) {s : σ}
    (closed : (rest (advanced s)).head? = some (.mark .rightBracket)) :
    (Rule.call setting.legacy (whole setting) name).run s =
      (close (Function.builtIn.find? name) (.complete [] none)).run (advanced s) := by
  rw [run_entered entered, listed_eq, bind_assoc, run_bind_ok (run_atMark _ _),
    if_pos (by simpa using closed)]
  rfl

theorem run_arguments {name : String} (entered : enters setting name = true) {s : σ}
    (unclosed : (rest (advanced s)).head? ≠ some (.mark .rightBracket)) :
    (Rule.call setting.legacy (whole setting) name).run s =
      (callFrom setting name [] none).run (advanced s) := by
  rw [run_entered entered, listed_eq, bind_assoc, run_bind_ok (run_atMark _ _),
    if_neg (by simpa using unclosed)]
  rfl

theorem run_close (name : String) (args : List Value) (refused : Option Value) {s : σ}
    (closed : (rest s).head? = some (.mark .rightBracket)) :
    (close (Function.builtIn.find? name) (.complete args refused) : Cursor σ Value).run s =
      (lift (answer (Function.builtIn.find? name) args refused)).run (advanced s) := by
  have closes := run_expect .rightBracket s
  rw [if_pos closed] at closes
  rw [close, run_bind_ok closes]

theorem run_another {name : String} {args : List Value} {refused : Option Value} {v : Value} {t : σ}
    (kept : leaves setting name args refused v = false)
    (comma : (rest t).head? = some (.mark .comma)) :
    (do close (Function.builtIn.find? name) (← argumentsAfter (whole setting) setting.legacy
        (Function.admits name) args refused v) : Cursor σ Value).run t =
      (callFrom setting name (args ++ [v])
        (refusedAfter (Function.admits name) args refused v)).run (advanced t) := by
  unfold leaves at kept
  rw [argumentsAfter, if_neg (by simp [kept]), bind_assoc, run_bind_ok (run_atMark _ t),
    if_pos (by simpa using comma), bind_assoc, run_bind_ok (run_advance t)]
  rfl

theorem run_left {name : String} {args : List Value} {refused : Option Value} {v : Value} {t : σ}
    (left : leaves setting name args refused v = true) :
    (do close (Function.builtIn.find? name) (← argumentsAfter (whole setting) setting.legacy
        (Function.admits name) args refused v) : Cursor σ Value).run t = .ok v (Tape.cut t) := by
  unfold leaves at left
  rw [argumentsAfter, if_pos left]
  rfl

theorem run_last {name : String} {args : List Value} {refused : Option Value} {v : Value} {t : σ}
    (kept : leaves setting name args refused v = false)
    (last : (rest t).head? ≠ some (.mark .comma)) :
    (do close (Function.builtIn.find? name) (← argumentsAfter (whole setting) setting.legacy
        (Function.admits name) args refused v) : Cursor σ Value).run t =
      (close (Function.builtIn.find? name) (.complete (args ++ [v])
        (refusedAfter (Function.admits name) args refused v))).run t := by
  unfold leaves at kept
  rw [argumentsAfter, if_neg (by simp [kept]), bind_assoc, run_bind_ok (run_atMark _ t),
    if_neg (by simpa using last)]
  rfl

omit [Tape σ] in
theorem run_lift_error {e : Except Fault Value} {f : Fault} (fails : e = .error f) (s : σ) :
    (lift e : Cursor σ Value).run s = .error f s := by
  rw [fails]
  rfl

theorem run_expect_error {m : Separator} {s : σ} {f : Fault}
    (missing : (rest s).head? ≠ some (.mark m) ∧ f = .unexpected m (rest s).head?) :
    (expect m : Cursor σ Unit).run s = .error f s := by
  rw [run_expect, if_neg missing.1, missing.2]

theorem faults_of_reaches {start : σ} {p : Place} {s : σ} (reached : Reaches setting start p s)
    {f : Fault} (faults : p.Faults setting s f) : (Place.tier 0).Faults setting start f := by
  have shrinks (k : Nat) : Shrinks (rung setting k : Cursor σ Value) := shrinks_tier k
  -- A fault at a place is one at the place that led to it.
  induction reached with
  | start => exact faults
  | first low _ ih =>
      obtain ⟨t, run⟩ := faults
      apply ih
      exact ⟨t, by rw [rung_tier setting low, tier_eq, run_bind_error run]⟩
  | chain low _ run ih =>
      obtain ⟨u, run'⟩ := faults
      apply ih
      exact ⟨u, by rw [rung_tier setting low, tier_eq, run_bind_ok run, run']⟩
  | @next k a op s _ found ih =>
      obtain ⟨t, run⟩ := faults
      apply ih
      exact ⟨t, by rw [chainOn_step (shrinks (k + 1)) _ _ a found, run_bind_error run]⟩
  | @combine k a b op s t _ found run ih =>
      apply ih
      refine ⟨t, ?_⟩
      rw [chainOn_step (shrinks (k + 1)) _ _ a found, run_bind_ok run,
        run_bind_error (run_lift_error faults t)]
  | @onward k a b c op s t _ found run joined ih =>
      obtain ⟨u, run'⟩ := faults
      apply ih
      refine ⟨u, ?_⟩
      have lifted : (lift (join Operation.apply op a b) : Cursor σ Value).run t = .ok c t := by
        rw [joined]
        rfl
      rw [chainOn_step (shrinks (k + 1)) _ _ a found, run_bind_ok run, run_bind_ok lifted, run']
  | base _ ih =>
      obtain ⟨t, run⟩ := faults
      apply ih
      exact ⟨t, by rw [rung_four, power_eq (shrinks 5), run_bind_error run]⟩
  | @exponent a s t _ run caret ih =>
      obtain ⟨u, run'⟩ := faults
      apply ih
      refine ⟨u, ?_⟩
      rw [rung_four, power_eq (shrinks 5), run_bind_ok run, powerAfter_step _ a caret, ← rung_four,
        run_bind_error run']
  | @raise a b s t u _ run caret run' ih =>
      apply ih
      refine ⟨u, ?_⟩
      rw [rung_four, power_eq (shrinks 5), run_bind_ok run, powerAfter_step _ a caret, ← rung_four,
        run_bind_ok run']
      exact run_lift_error faults u
  | @sign o s _ head ih =>
      obtain ⟨t, run⟩ := faults
      apply ih
      refine ⟨t, ?_⟩
      rw [run_sign head, run_bind_error run]
  | @bracket s _ opened ih =>
      obtain ⟨t, run⟩ := faults
      apply ih
      refine ⟨t, ?_⟩
      rw [rung_zero] at run
      rw [run_opened opened, run_bind_error run]
  | @closing v s t _ opened run ih =>
      apply ih
      refine ⟨t, ?_⟩
      rw [rung_zero] at run
      rw [run_opened opened, run_bind_ok run, run_bind_error (run_expect_error faults)]
  | @quotation s _ head ih =>
      apply ih
      refine ⟨Rule.closing s, ?_⟩
      rw [run_unsigned (by rw [head]; rfl), atom, run_bind_ok (run_peek s), head]
      dsimp only
      rw [run_quotation, run_bind_error (run_expect_error faults)]
  | @literal w s _ head starts ih =>
      apply ih
      refine ⟨advanced s, ?_⟩
      rw [run_literal starts head]
      exact run_lift_error faults _
  | @lookup x s _ head named unopened ih =>
      apply ih
      refine ⟨advanced s, ?_⟩
      rw [run_name named head, run_bind_ok (run_atMark _ _), if_neg (by simpa using unopened)]
      exact run_lift_error faults _
  | @call name s _ head named opened ih =>
      obtain ⟨t, run⟩ := faults
      apply ih
      refine ⟨t, ?_⟩
      rw [run_name named head, run_bind_ok (run_atMark _ _), if_pos (by simpa using opened), run]
  | @noArguments name s _ entered closed ih =>
      apply ih
      refine ⟨advanced (advanced s), ?_⟩
      rw [run_noArguments entered closed, run_close name [] none closed]
      exact run_lift_error faults _
  | arguments _ entered unclosed ih =>
      obtain ⟨t, run⟩ := faults
      apply ih
      exact ⟨t, by rw [run_arguments entered unclosed, run]⟩
  | argument _ ih =>
      obtain ⟨t, run⟩ := faults
      apply ih
      rw [rung_zero] at run
      exact ⟨t, by rw [callFrom_eq, run_bind_error run]⟩
  | another _ run kept comma ih =>
      obtain ⟨u, run'⟩ := faults
      apply ih
      rw [rung_zero] at run
      exact ⟨u, by rw [callFrom_eq, run_bind_ok run, run_another kept comma, run']⟩
  | @lastArgument _ _ _ _ _ t _ run kept last ih =>
      apply ih
      rw [rung_zero] at run
      refine ⟨t, ?_⟩
      rw [callFrom_eq, run_bind_ok run, run_last kept last, close,
        run_bind_error (run_expect_error faults)]
  | @answer _ _ _ _ _ t _ run kept closed ih =>
      apply ih
      rw [rung_zero] at run
      refine ⟨advanced t, ?_⟩
      rw [callFrom_eq, run_bind_ok run, run_last kept (by simp [closed]), run_close _ _ _ closed]
      exact run_lift_error faults _

def Place.isAct : Place → Bool
  | .combine _ _ _ | .demand _ | .literal _ | .lookup _ | .answer _ _ _ => true
  | .tier _ | .chain _ _ | .call _ | .argument _ _ _ => false

def Meets (setting : Setting) (start : σ) (f : Fault) : Prop :=
  ∃ p s, Reaches setting start p s ∧ p.isAct = true ∧ p.Faults setting s f

/-- Every fault on tier `k` is that of an act, over at most `n` tokens. -/
def Traced (setting : Setting) (start : σ) (k n : Nat) : Prop :=
  ∀ s f, (rest s).length ≤ n → Reaches setting start (.tier k) s →
    (Place.tier k).Faults setting s f → Meets setting start f

section Tiers

variable {start : σ} {n : Nat}

theorem meets_chain {k : Nat} (operand : Traced setting start (k + 1) n) {a : Value} {s : σ}
    (bound : (rest s).length ≤ n) (here : Reaches setting start (.chain k a) s) {f : Fault}
    (faults : (Place.chain k a).Faults setting s f) : Meets setting start f := by
  have shrinks : Shrinks (rung setting (k + 1) : Cursor σ Value) := shrinks_tier (k + 1)
  induction size : (rest s).length using Nat.strongRecOn generalizing a s with
  | ind m ih =>
    obtain ⟨u, run⟩ := faults
    cases found : (rest s).head?.bind (Operation.on k) with
    | none =>
        rw [chainOn_stop _ _ a found] at run
        cases run
    | some op =>
        obtain ⟨token, head, -⟩ := Option.bind_eq_some_iff.mp found
        have shorter := advanced_shorter head
        rw [chainOn_step shrinks _ _ a found] at run
        obtain run | ⟨b, t, second, run⟩ := run_bind_eq_error run
        · exact operand _ f (by omega) (here.next found) ⟨u, run⟩
        · have bound' := shrinks.length_le second
          obtain run | ⟨c, t', lifted, onward⟩ := run_bind_eq_error run
          · exact ⟨_, t, here.combine found second, rfl, run_lift_eq_error run⟩
          · obtain ⟨joined, rfl⟩ := run_lift_eq_ok lifted
            exact ih _ (by omega) (by omega) (here.onward found second joined) ⟨u, onward⟩ rfl

theorem traced_chain {k : Nat} (low : k < 4) (operand : Traced setting start (k + 1) n) :
    Traced setting start k n := by
  rintro s f bound here ⟨u, run⟩
  rw [rung_tier setting low, tier_eq] at run
  obtain run | ⟨a, t, first, run⟩ := run_bind_eq_error run
  · exact operand s f bound (here.first low) ⟨u, run⟩
  · have bound' := (shrinks_tier (k + 1)).length_le first
    exact meets_chain operand (by omega) (here.chain low first) ⟨u, run⟩

theorem traced_power (operand : Traced setting start 5 n)
    (below : ∀ m < n, Traced setting start 4 m) : Traced setting start 4 n := by
  rintro s f bound here ⟨u, run⟩
  have shrinks : Shrinks (rung setting 5 : Cursor σ Value) := shrinks_tier 5
  rw [rung_four, power_eq shrinks] at run
  obtain run | ⟨a, t, first, run⟩ := run_bind_eq_error run
  · exact operand s f bound here.base ⟨u, run⟩
  · have bound' := shrinks.length_le first
    by_cases caret : (rest t).head? = some (.mark .caret)
    · have shorter := advanced_shorter caret
      rw [powerAfter_step _ a caret, ← rung_four] at run
      obtain run | ⟨b, w, second, run⟩ := run_bind_eq_error run
      · exact below _ (by omega) _ f (Nat.le_refl _) (here.exponent first caret) ⟨u, run⟩
      · exact ⟨_, w, here.raise first caret second, rfl, run_lift_eq_error run⟩
    · rw [powerAfter_stop _ a caret] at run
      cases run

end Tiers

section Operands

variable {start : σ} {n : Nat}

theorem meets_close {name : String} {args : List Value} {refused : Option Value} {s u : σ} {f : Fault}
    (run : (close (Function.builtIn.find? name) (.complete args refused) : Cursor σ Value).run s =
      .error f u)
    (demands : (rest s).head? ≠ some (.mark .rightBracket) →
      Reaches setting start (.demand .rightBracket) s)
    (answers : (rest s).head? = some (.mark .rightBracket) →
      Reaches setting start (.answer name args refused) (advanced s)) : Meets setting start f := by
  by_cases closed : (rest s).head? = some (.mark .rightBracket)
  · rw [run_close _ _ _ closed] at run
    exact ⟨_, _, answers closed, rfl, run_lift_eq_error run⟩
  · obtain run | ⟨_, t, expected, -⟩ := run_bind_eq_error run
    · exact ⟨_, s, demands closed, rfl, run_expect_eq_error run⟩
    · exact absurd (run_expect_eq_ok expected).1 closed

theorem meets_argument (inner : Traced setting start 0 n) {name : String} {args : List Value}
    {refused : Option Value} {s : σ} (bound : (rest s).length ≤ n)
    (here : Reaches setting start (.argument name args refused) s) {f : Fault}
    (faults : (Place.argument name args refused).Faults setting s f) : Meets setting start f := by
  induction size : (rest s).length using Nat.strongRecOn generalizing args refused s with
  | ind m ih =>
    obtain ⟨u, run⟩ := faults
    rw [callFrom_eq, ← rung_zero] at run
    obtain run | ⟨v, t, first, run⟩ := run_bind_eq_error run
    · exact inner s f bound here.argument ⟨u, run⟩
    · have bound' := (shrinks_tier 0).length_le first
      cases kept : leaves setting name args refused v with
      | true =>
          rw [rung_zero, run_left kept] at run
          cases run
      | false =>
          by_cases comma : (rest t).head? = some (.mark .comma)
          · have shorter := advanced_shorter comma
            rw [rung_zero, run_another kept comma] at run
            exact ih _ (by omega) (by omega) (here.another first kept comma) ⟨u, run⟩ rfl
          · rw [rung_zero, run_last kept comma] at run
            exact meets_close run (fun _ => here.lastArgument first kept comma)
              fun closed => here.answer first kept closed

theorem meets_call (inner : Traced setting start 0 n) {name : String} {s : σ}
    (bound : (rest (advanced s)).length ≤ n) (here : Reaches setting start (.call name) s)
    {f : Fault} (faults : (Place.call name).Faults setting s f) : Meets setting start f := by
  obtain ⟨u, run⟩ := faults
  cases entered : enters setting name with
  | false =>
      rw [run_unentered entered] at run
      cases run
  | true =>
      by_cases closed : (rest (advanced s)).head? = some (.mark .rightBracket)
      · rw [run_noArguments entered closed] at run
        exact meets_close run (absurd closed) fun _ => here.noArguments entered closed
      · rw [run_arguments entered closed] at run
        exact meets_argument inner bound (here.arguments entered closed) ⟨u, run⟩

theorem run_unnamed {w : String} {s : σ} (unnamed : isName w = false) :
    ∃ v t, (Rule.word setting (whole setting) w).run s = .ok v t := by
  unfold Rule.word
  by_cases number : startsNumber w = true
  · rw [if_pos number, numeral_eq]
    exact ⟨_, _, rfl⟩
  · rw [if_neg number]
    cases truth : boolean? w with
    | some b => exact ⟨_, _, rfl⟩
    | none =>
        by_cases start : hasNameStart w = true
        · simp [isName, isKeyword, number, truth, start] at unnamed
        · dsimp only
          rw [if_neg start]
          exact ⟨_, _, rfl⟩

theorem meets_word (inner : Traced setting start 0 n) {w : String} {s u : σ}
    (head : (rest s).head? = some (.word w)) (bound : (rest (advanced s)).length ≤ n)
    (here : Reaches setting start (.tier 5) s) {f : Fault}
    (run : (rung setting 5).run s = .error f u) : Meets setting start f := by
  cases named : isName w with
  | true =>
      rw [run_name named head, run_bind_ok (run_atMark _ _)] at run
      by_cases opened : (rest (advanced s)).head? = some (.mark .leftBracket)
      · have shorter := advanced_shorter opened
        rw [if_pos (by simpa using opened)] at run
        exact meets_call inner (by omega) (here.call head named opened) ⟨u, run⟩
      · rw [if_neg (by simpa using opened)] at run
        exact ⟨_, _, here.lookup head named opened, rfl, run_lift_eq_error run⟩
  | false =>
      by_cases starts : startsNumber w = true
      · rw [run_literal starts head] at run
        exact ⟨_, _, here.literal head starts, rfl, run_lift_eq_error run⟩
      · have ends : ∃ v t, (Rule.word setting (whole setting) w).run s = .ok v t :=
          run_unnamed named
        obtain ⟨v, t, ended⟩ := ends
        rw [run_rung_word head, ended] at run
        cases run

theorem operand_error {s u : σ} {f : Fault} (run : (rung setting 5).run s = .error f u) :
    (∃ o, (rest s).head?.bind Operator.additive? = some o ∧
      (rung setting 5).run (advanced s) = .error f u) ∨
    (rest s).head? = some (.mark .leftBracket) ∨
    ((rest s).head? = some (.mark .quote) ∧
      (quotation : Cursor σ Value).run s = .error f u) ∨
    ∃ w, (rest s).head? = some (.word w) := by
  cases signed : (rest s).head?.bind Operator.additive? with
  | some o =>
      rw [run_sign signed] at run
      obtain inside | ⟨v, t, -, ended⟩ := run_bind_eq_error run
      · exact .inl ⟨o, rfl, inside⟩
      · cases ended
  | none =>
      rw [run_unsigned signed, atom, run_bind_ok (run_peek s)] at run
      cases head : (rest s).head? with
      | none =>
          rw [head] at run
          cases run
      | some token =>
          cases token with
          | word w => exact .inr (.inr (.inr ⟨w, rfl⟩))
          | mark m =>
              rw [head] at run
              cases m
              case leftBracket => exact .inr (.inl rfl)
              case quote => exact .inr (.inr (.inl ⟨rfl, run⟩))
              all_goals cases run

theorem traced_factor (below : ∀ m < n, ∀ k ≤ 5, Traced setting start k m) :
    Traced setting start 5 n := by
  rintro s f bound here ⟨u, run⟩
  have inner {t : Token} (head : (rest s).head? = some t) {k : Nat} (le : k ≤ 5) :
      Traced setting start k (rest (advanced s)).length := by
    have shorter := advanced_shorter head
    exact below _ (by omega) k le
  obtain ⟨o, signed, inside⟩ | opened | ⟨head, unpaired⟩ | ⟨w, head⟩ := operand_error run
  · obtain ⟨token, head, -⟩ := Option.bind_eq_some_iff.mp signed
    exact inner head (Nat.le_refl 5) _ f (Nat.le_refl _) (here.sign signed) ⟨u, inside⟩
  · rw [run_opened opened, ← rung_zero] at run
    obtain run | ⟨v, t, first, run⟩ := run_bind_eq_error run
    · exact inner opened (Nat.zero_le 5) _ f (Nat.le_refl _) (here.bracket opened) ⟨u, run⟩
    · obtain run | ⟨_, _, -, run⟩ := run_bind_eq_error run
      · exact ⟨_, t, here.closing opened first, rfl, run_expect_eq_error run⟩
      · cases run
  · rw [run_quotation] at unpaired
    obtain run | ⟨_, _, -, run⟩ := run_bind_eq_error unpaired
    · exact ⟨_, _, here.quotation head, rfl, run_expect_eq_error run⟩
    · cases run
  · exact meets_word (inner head (Nat.zero_le 5)) head (Nat.le_refl _) here run

end Operands

theorem traced_rung {start : σ} (n : Nat) {k : Nat} (le : k ≤ 5) : Traced setting start k n := by
  apply rung_induction (motive := Traced setting start) _ _ _ n k le
  · exact fun n below => traced_factor below
  · exact fun n below five => traced_power five below
  · exact fun n k low above => traced_chain low above

/-- A run ends in a fault just if it comes to an act that fails, and then in the fault of the act. -/
theorem faults_iff_meets (start : σ) (f : Fault) :
    (∃ t, (whole setting).run start = .error f t) ↔ Meets setting start f := by
  rw [← rung_zero]
  constructor
  · exact fun faults => traced_rung _ (Nat.zero_le 5) start f (Nat.le_refl _) .start faults
  · rintro ⟨p, s, reached, -, faults⟩
    exact faults_of_reaches reached faults

end Formulary
