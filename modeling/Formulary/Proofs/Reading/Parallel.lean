import Formulary.Proofs.Fault.Causes
import Formulary.Proofs.Grammar.Ladder
import Formulary.Proofs.Reading.Verdict

set_option autoImplicit false

namespace Formulary

open Tape Rule

variable {σ : Type} [Tape σ] {α β : Type}

/-- How two runs over one tape may compare: they end alike but for their values, or one has stopped
at a value, and no further than the other came. -/
inductive Beside (V : α → α → Prop) :
    EStateM.Result Fault σ α → EStateM.Result Fault σ α → Prop where
  | ended {a b : α} {s : σ} (values : V a b) : Beside V (.ok a s) (.ok b s)
  | stopped {f : Fault} {s : σ} : Beside V (.error f s) (.error f s)
  | left {f : Fault} {s : σ} {r : EStateM.Result Fault σ α} (data : f.isSyntax = false)
      (ahead : rest (Cursor.last r) <:+ rest s) : Beside V (.error f s) r
  | right {f : Fault} {s : σ} {r : EStateM.Result Fault σ α} (data : f.isSyntax = false)
      (ahead : rest (Cursor.last r) <:+ rest s) : Beside V r (.error f s)

def Parallel (n : Nat) (V : α → α → Prop) (m m' : Cursor σ α) : Prop :=
  ∀ s, (rest s).length ≤ n → Beside V (m.run s) (m'.run s)

abbrev Any : α → α → Prop := fun _ _ => True

theorem beside_refl (r : EStateM.Result Fault σ α) : Beside Any r r := by
  cases r with
  | ok a s => exact .ended trivial
  | error f s => exact .stopped

theorem last_bind_suffix {m : Cursor σ α} {f : α → Cursor σ β} (shrinks : ∀ a, Shrinks (f a))
    (s : σ) : rest (Cursor.last ((m >>= f).run s)) <:+ rest (Cursor.last (m.run s)) := by
  cases run : m.run s with
  | ok a t =>
      rw [run_bind_ok run]
      exact shrinks a t
  | error e t =>
      rw [run_bind_error run]
      exact List.suffix_rfl

theorem Beside.bind {V : α → α → Prop} {W : β → β → Prop} {m m' : Cursor σ α}
    {f g : α → Cursor σ β} {s : σ} (first : Beside V (m.run s) (m'.run s))
    (shrinks : ∀ a, Shrinks (f a)) (shrinks' : ∀ a, Shrinks (g a))
    (next : ∀ a b t, V a b → m.run s = .ok a t → Beside W ((f a).run t) ((g b).run t)) :
    Beside W ((m >>= f).run s) ((m' >>= g).run s) := by
  have behind := last_bind_suffix (m := m) shrinks s
  have behind' := last_bind_suffix (m := m') shrinks' s
  cases run : m.run s with
  | ok a t =>
      cases run' : m'.run s with
      | ok b u =>
          rw [run, run'] at first
          cases first with
          | ended values =>
              rw [run_bind_ok run, run_bind_ok run']
              exact next a b t values run
      | error e u =>
          -- The right run stopped in the first part, and the left one only goes further.
          rw [run, run'] at first
          rw [run_bind_error run']
          cases first with
          | right data ahead => exact .right data (behind.trans (run ▸ ahead))
  | error e t =>
      rw [run] at first
      rw [run_bind_error run]
      cases run' : m'.run s with
      | ok b u =>
          rw [run'] at first
          cases first with
          | left data ahead => exact .left data (behind'.trans (run' ▸ ahead))
      | error e' u =>
          rw [run'] at first
          rw [run_bind_error run']
          cases first with
          | stopped => exact .stopped
          | left data ahead => exact .left data ahead
          | right data ahead => exact .right data ahead

/-- What fails for its values only. -/
def Tame (e : Except Fault α) : Prop := ∀ f, e = .error f → f.isSyntax = false

theorem beside_lift {e e' : Except Fault α} (tame : Tame e) (tame' : Tame e') (s : σ) :
    Beside Any ((lift e : Cursor σ α).run s) ((lift e').run s) := by
  cases e with
  | ok a =>
      cases e' with
      | ok b => exact .ended trivial
      | error f' => exact .right (tame' f' rfl) List.suffix_rfl
  | error f =>
      cases e' with
      | ok b => exact .left (tame f rfl) List.suffix_rfl
      | error f' => exact .left (tame f rfl) List.suffix_rfl

theorem tame_join (op : Operation) (a b : Value) : Tame (join Operation.apply op a b) := by
  intro f fails
  rw [(join_eq_error.mp fails).1]
  rfl

theorem tame_read (scope : Scope) (x : String) : Tame (scope.read x) := by
  intro f fails
  obtain ⟨d, -, -, fails⟩ := Scope.read_eq_error.mp fails
  exact (Datum.toValue_eq_error fails).1

theorem tame_answer (name : String) (args : List Value) (refused : Option Value) :
    Tame (answer (Function.builtIn.find? name) args refused) := by
  intro f fails
  obtain ⟨-, s, -, -, failure⟩ := answer_eq_error fails
  cases failure <;> rfl

section Tiers

variable {n : Nat} {setting setting' : Setting}

theorem beside_chain {k : Nat} (low : k < 4)
    (h : Parallel n Any (rung setting (k + 1) : Cursor σ Value) (rung setting' (k + 1)))
    (a a' : Value) :
    Parallel n Any
      (chainOn (rung setting (k + 1) : Cursor σ Value) (Operation.on k) Operation.apply a)
      (chainOn (rung setting' (k + 1)) (Operation.on k) Operation.apply a') := by
  intro s bound
  have c : Course fun s t : σ => rest t <:+ rest s := course_suffix
  have shrinks : Shrinks (rung setting (k + 1) : Cursor σ Value) := shrinks_rung setting (by omega)
  have shrinks' : Shrinks (rung setting' (k + 1) : Cursor σ Value) :=
    shrinks_rung setting' (by omega)
  induction size : (rest s).length using Nat.strongRecOn generalizing a a' s with
  | ind m ih =>
    cases found : (rest s).head?.bind (Operation.on k) with
    | none =>
        rw [chainOn_stop _ _ a found, chainOn_stop _ _ a' found]
        exact .ended trivial
    | some op =>
        obtain ⟨token, head, -⟩ := Option.bind_eq_some_iff.mp found
        have shorter := advanced_shorter head
        rw [chainOn_step shrinks _ _ a found, chainOn_step shrinks' _ _ a' found]
        apply (h (advanced s) (by omega)).bind
          (fun _ => keeps_bind c (keeps_lift c _) fun _ => keeps_chainOn c shrinks _ _ _)
          (fun _ => keeps_bind c (keeps_lift c _) fun _ => keeps_chainOn c shrinks' _ _ _)
        intro b b' t _ run
        have bound' := shrinks.length_le run
        apply (beside_lift (tame_join op a b) (tame_join op a' b') t).bind
          (fun _ => keeps_chainOn c shrinks _ _ _) (fun _ => keeps_chainOn c shrinks' _ _ _)
        intro v v' u _ lifted
        obtain ⟨-, rfl⟩ := run_lift_eq_ok lifted
        exact ih _ (by omega) v v' u (by omega) rfl

theorem beside_power (h : Parallel n Any (rung setting 5 : Cursor σ Value) (rung setting' 5)) :
    Parallel n Any (rung setting 4 : Cursor σ Value) (rung setting' 4) := by
  intro s bound
  have c : Course fun s t : σ => rest t <:+ rest s := course_suffix
  have shrinks : Shrinks (rung setting 5 : Cursor σ Value) := shrinks_rung setting (by decide)
  have shrinks' : Shrinks (rung setting' 5 : Cursor σ Value) := shrinks_rung setting' (by decide)
  rw [rung_four, rung_four]
  induction size : (rest s).length using Nat.strongRecOn generalizing s with
  | ind m ih =>
    rw [power_eq shrinks, power_eq shrinks']
    apply (h s bound).bind (fun _ => keeps_powerAfter c shrinks _)
      (fun _ => keeps_powerAfter c shrinks' _)
    intro a a' t _ run
    have bound' := shrinks.length_le run
    by_cases caret : (rest t).head? = some (.mark .caret)
    · have shorter := advanced_shorter caret
      rw [powerAfter_step _ a caret, powerAfter_step _ a' caret]
      apply (ih _ (by omega) _ (by omega) rfl).bind (fun _ => keeps_lift c _)
        (fun _ => keeps_lift c _)
      intro b b' u _ _
      exact beside_lift (tame_join .power a b) (tame_join .power a' b') u
    · rw [powerAfter_stop _ a caret, powerAfter_stop _ a' caret]
      exact .ended trivial

theorem beside_factor {left right : Cursor σ Value} (h : Parallel n Any left right) :
    Parallel n Any (factor left) (factor right) := by
  intro s bound
  induction size : (rest s).length using Nat.strongRecOn generalizing s with
  | ind m ih =>
    rw [factor_eq left, factor_eq right, run_bind_ok (run_peek s), run_bind_ok (run_peek s)]
    cases found : (rest s).head?.bind Operator.additive? with
    | none => exact h s bound
    | some sign =>
        obtain ⟨token, head, -⟩ := Option.bind_eq_some_iff.mp found
        have shorter := advanced_shorter head
        simp only [run_bind_ok (run_advance s)]
        apply (ih _ (by omega) (advanced s) (by omega) rfl).bind
          (fun _ => keeps_pure course_suffix _) (fun _ => keeps_pure course_suffix _)
        intro b b' t _ _
        exact .ended trivial

end Tiers

section Calls

variable {n : Nat} {left right : Cursor σ Value} (shrinks : Shrinks left) (shrinks' : Shrinks right)
  (h : Parallel n Any left right)

def BothComplete : Arguments → Arguments → Prop
  | .complete _ _, .complete _ _ => True
  | _, _ => False

include shrinks shrinks' h

theorem beside_argumentsOn (admitsError : Nat → Bool) (args args' : List Value)
    (refused refused' : Option Value) :
    Parallel n BothComplete (argumentsOn left false admitsError args refused)
      (argumentsOn right false admitsError args' refused') := by
  intro s bound
  have c : Course fun s t : σ => rest t <:+ rest s := course_suffix
  induction size : (rest s).length using Nat.strongRecOn
    generalizing args args' refused refused' s with
  | ind m ih =>
    rw [argumentsOn_eq shrinks, argumentsOn_eq shrinks']
    apply (h s bound).bind (fun _ => keeps_argumentsAfter _ _ c shrinks _ _ _)
      (fun _ => keeps_argumentsAfter _ _ c shrinks' _ _ _)
    intro arg arg' t _ run
    have bound' := shrinks.length_le run
    simp only [argumentsAfter, Bool.and_false, Bool.false_eq_true, if_false]
    rw [run_bind_ok (run_atMark _ t), run_bind_ok (run_atMark _ t)]
    by_cases comma : (rest t).head? = some (.mark .comma)
    · have shorter := advanced_shorter comma
      simp only [comma, beq_self_eq_true, if_true]
      rw [run_bind_ok (run_advance t), run_bind_ok (run_advance t)]
      exact ih _ (by omega) _ _ _ _ _ (by omega) rfl
    · simp only [beq_iff_eq, if_neg comma]
      exact .ended trivial

theorem beside_listed (admitsError : Nat → Bool) :
    Parallel n BothComplete (listed left false admitsError) (listed right false admitsError) := by
  intro s bound
  rw [listed_eq, listed_eq, run_bind_ok (run_atMark _ s), run_bind_ok (run_atMark _ s)]
  split
  · exact .ended trivial
  · exact beside_argumentsOn shrinks shrinks' h admitsError [] [] none none s bound

theorem beside_call (name : String) {s : σ} (bound : (rest (advanced s)).length ≤ n) :
    Beside Any ((call false left name).run s) ((call false right name).run s) := by
  have c : Course fun s t : σ => rest t <:+ rest s := course_suffix
  have closes (given : Arguments) :
      Shrinks (close (Function.builtIn.find? name) given : Cursor σ Value) := by
    cases given with
    | abandoned e => exact keeps_surface c e
    | complete args refused => exact keeps_bind c (keeps_expect c _) fun _ => keeps_lift c _
  rw [call_eq, call_eq, Bool.and_false, if_neg (by simp), if_neg (by simp),
    run_bind_ok (run_advance s), run_bind_ok (run_advance s)]
  apply (beside_listed shrinks shrinks' h _ _ bound).bind closes closes
  intro given given' t both _
  cases given with
  | abandoned e => exact both.elim
  | complete args refused =>
      cases given' with
      | abandoned e => exact both.elim
      | complete args' refused' =>
          apply (beside_refl ((expect .rightBracket : Cursor σ Unit).run t)).bind
            (fun _ => keeps_lift c _) (fun _ => keeps_lift c _)
          intro _ _ u _ _
          exact beside_lift (tame_answer name args refused) (tame_answer name args' refused') u

theorem beside_word (scope scope' : Scope) (w : String) {s : σ}
    (bound : (rest (advanced s)).length ≤ n) :
    Beside Any ((word ⟨scope, false⟩ left w).run s) ((word ⟨scope', false⟩ right w).run s) := by
  rw [word, word]
  split
  · exact beside_refl _
  · split
    · exact beside_refl _
    · split
      · rw [identifier, identifier, run_bind_ok (run_advance s), run_bind_ok (run_advance s),
          run_bind_ok (run_atMark _ _), run_bind_ok (run_atMark _ _)]
        by_cases opened : (rest (advanced s)).head? = some (.mark .leftBracket)
        · have shorter := advanced_shorter opened
          simp only [opened, beq_self_eq_true, if_true]
          exact beside_call shrinks shrinks' h w (by omega)
        · simp only [beq_iff_eq, if_neg opened]
          exact beside_lift (tame_read scope w) (tame_read scope' w) _
      · exact beside_refl _

omit h in
theorem beside_atom (h : ∀ m < n, Parallel m Any left right) (scope scope' : Scope) :
    Parallel n Any (atom ⟨scope, false⟩ left) (atom ⟨scope', false⟩ right) := by
  intro s bound
  have c : Course fun s t : σ => rest t <:+ rest s := course_suffix
  rw [atom, atom, run_bind_ok (run_peek s), run_bind_ok (run_peek s)]
  cases head : (rest s).head? with
  | none => exact beside_refl _
  | some token =>
      have shorter := advanced_shorter head
      have inner := h (rest (advanced s)).length (by omega)
      cases token with
      | word w => exact beside_word shrinks shrinks' inner scope scope' w (Nat.le_refl _)
      | mark m =>
          cases m
          case leftBracket =>
            dsimp only
            rw [bracket, bracket, run_bind_ok (run_advance s), run_bind_ok (run_advance s)]
            apply (inner (advanced s) (Nat.le_refl _)).bind
              (fun _ => keeps_bind c (keeps_expect c _) fun _ => keeps_pure c _)
              (fun _ => keeps_bind c (keeps_expect c _) fun _ => keeps_pure c _)
            intro v v' t _ _
            apply (beside_refl ((expect .rightBracket : Cursor σ Unit).run t)).bind
              (fun _ => keeps_pure c _) (fun _ => keeps_pure c _)
            intro _ _ u _ _
            exact .ended trivial
          all_goals exact beside_refl _

end Calls

theorem parallel_rung (scope scope' : Scope) (n : Nat) {k : Nat} (le : k ≤ 5) :
    Parallel n Any (rung ⟨scope, false⟩ k : Cursor σ Value) (rung ⟨scope', false⟩ k) := by
  apply rung_induction (motive := fun k n => Parallel n Any
    (rung ⟨scope, false⟩ k : Cursor σ Value) (rung ⟨scope', false⟩ k)) _ _ _ n k le
  · intro n below
    have inner (m : Nat) (less : m < n) :
        Parallel m Any (whole ⟨scope, false⟩ : Cursor σ Value) (whole ⟨scope', false⟩) := by
      rw [← rung_zero, ← rung_zero]
      exact below m less 0 (Nat.zero_le 5)
    rw [rung_five, rung_five]
    exact beside_factor (beside_atom (shrinks_whole _) (shrinks_whole _) inner scope scope')
  · exact fun n _ five => beside_power five
  · intro n k low above s bound
    have c : Course fun s t : σ => rest t <:+ rest s := course_suffix
    have shrinks (setting : Setting) : Shrinks (rung setting (k + 1) : Cursor σ Value) :=
      shrinks_rung setting (by omega)
    rw [rung_tier _ low, rung_tier _ low, tier_eq, tier_eq]
    apply (above s bound).bind (fun _ => keeps_chainOn c (shrinks _) _ _ _)
      (fun _ => keeps_chainOn c (shrinks _) _ _ _)
    intro a a' t _ run
    have bound' := (shrinks _).length_le run
    exact beside_chain low above a a' t (by omega)

theorem beside_whole (scope scope' : Scope) (s : σ) :
    Beside Any ((whole ⟨scope, false⟩).run s) ((whole ⟨scope', false⟩).run s) := by
  rw [← rung_zero, ← rung_zero]
  exact parallel_rung scope scope' _ (Nat.zero_le 5) s (Nat.le_refl _)

/-- What default mode reads does not hang on the bindings. Two runs without a fault end at one
place, so that both results give way to tokens left over or neither does. Where one run meets a
token that it did not expect, the other meets it too or has stopped at a value before. -/
theorem reading_ignores_bindings (scope scope' : Scope) (e : String) :
    let size := (Token.tokens e).length
    let run := Run.ofTokens ⟨scope, false⟩ (Token.tokens e)
    let run' := Run.ofTokens ⟨scope', false⟩ (Token.tokens e)
    (∀ v v', run.outcome = .ok v → run'.outcome = .ok v' →
      run.position = run'.position ∧
        ((run.position < size ∧ run.value size = .tokenError ∧ run'.value size = .tokenError) ∨
          (run.position = size ∧ run.value size = v ∧ run'.value size = v'))) ∧
    (∀ expected found, run.outcome = .error (.unexpected expected found) →
      (run'.outcome = .error (.unexpected expected found) ∧ run'.position = run.position) ∨
        ∃ f, run'.outcome = .error f ∧ f.isSyntax = false ∧ run'.position ≤ run.position) := by
  intro size run run'
  have beside := beside_whole scope scope' (Token.tokens e)
  have outcome : run.outcome = _ := outcome_ofTokens _ _
  have outcome' : run'.outcome = _ := outcome_ofTokens _ _
  have position : run.position = _ := position_ofTokens _ _
  have position' : run'.position = _ := position_ofTokens _ _
  have reached : run.position ≤ size := position ▸ Nat.sub_le _ _
  generalize (whole ⟨scope, false⟩).run (Token.tokens e) = r at *
  generalize (whole ⟨scope', false⟩).run (Token.tokens e) = r' at *
  constructor
  · intro v v' ended ended'
    have stands : run.position = run'.position := by
      rw [position, position']
      -- A run that stopped at a value would have ended in a fault.
      cases beside with
      | ended => rfl
      | stopped => rfl
      | left =>
          rw [ended] at outcome
          cases outcome
      | right =>
          rw [ended'] at outcome'
          cases outcome'
    refine ⟨stands, ?_⟩
    rw [Run.value, Run.value, ended, ended', ← stands]
    by_cases left : run.position < size
    · simp [left]
    · simp [show run.position = size by omega]
  · intro expected found stopped
    rw [stopped] at outcome
    cases beside with
    | ended => cases outcome
    | stopped =>
        cases outcome
        exact .inl ⟨outcome', by rw [position, position']⟩
    | left data => cases outcome; cases data
    | right data ahead =>
        refine .inr ⟨_, outcome', data, ?_⟩
        have further := ahead.length_le
        rw [position, position']
        exact Nat.sub_le_sub_left further _

theorem reading_ignores_bindings_path :
    Run.ofTokens ⟨[("x", .text "a")], false⟩ (Token.tokens "x&(1") =
        ⟨.error (.unexpected .rightBracket none), 4⟩ ∧
      ∃ f, (Run.ofTokens ⟨[("x", .path "a")], false⟩ (Token.tokens "x&(1")).outcome = .error f ∧
        f.isSyntax = false ∧
        (Run.ofTokens ⟨[("x", .path "a")], false⟩ (Token.tokens "x&(1")).position ≤ 4 := by
  have met : Run.ofTokens ⟨[("x", .text "a")], false⟩ (Token.tokens "x&(1") =
      ⟨.error (.unexpected .rightBracket none), 4⟩ := by rfl
  have other := (reading_ignores_bindings [("x", .text "a")] [("x", .path "a")] "x&(1").2
    .rightBracket none (by rw [met])
  rw [met] at other
  obtain ⟨same, -⟩ | stopped := other
  · cases same
  · exact ⟨met, stopped⟩

end Formulary
