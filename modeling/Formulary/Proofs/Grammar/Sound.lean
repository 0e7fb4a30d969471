import Formulary.Proofs.Grammar.Complete
import Formulary.Proofs.Grammar.Operands

set_option autoImplicit false

namespace Formulary

open Tape Rule Token

def Token.Clean (ts : List Token) : Prop := bare false ts = ts

theorem Token.Clean.settled {ts : List Token} (clean : Clean ts) : Settled ts :=
  clean ▸ settled_bare ts

theorem Token.Clean.tail {t : Token} {ts : List Token} (clean : Clean (t :: ts))
    (unquoted : t ≠ .mark .quote) : Clean ts := by
  have visible : t ≠ .mark .space := by simpa [Settled] using clean.settled
  rw [Clean, bare_cons unquoted visible] at clean
  exact (List.cons.inj clean).2

theorem Token.Clean.behind {t : Tree} {next next' : List Token} (clean : Clean (t.yield ++ next))
    (fits : t.Fits next') : Clean next := by
  rw [Clean, t.bare_yield fits] at clean
  exact List.append_cancel_left clean

theorem Token.Clean.behind_quotation {content ts : List Token} (unquoted : .mark .quote ∉ content)
    (clean : Clean (.mark .quote :: (content ++ .mark .quote :: ts))) : Clean ts := by
  rw [Clean, bare_quote, Bool.not_false, bare_unquoted unquoted, bare_quote] at clean
  have inner := List.append_cancel_left (List.cons.inj clean).2
  exact (List.cons.inj inner).2

variable {σ : Type} [Tape σ] {setting : Setting}

theorem clean_advanced {s : σ} {t : Token} (clean : Clean (rest s))
    (head : (rest s).head? = some t) (unquoted : t ≠ .mark .quote) :
    rest s = t :: rest (advanced s) ∧ Clean (rest (advanced s)) := by
  obtain ⟨ts, here⟩ := List.head?_eq_some_iff.mp head
  rw [here] at clean
  have tail := clean.tail unquoted
  rw [here, rest_behind here tail.settled]
  exact ⟨rfl, tail⟩

def Parses (setting : Setting) (k : Nat) (ts : List Token) (v : Value) (next : List Token) :
    Prop :=
  ∃ t : Tree, ts = t.yield ++ next ∧ k ≤ t.tier ∧ t.Fits next ∧
    t.value setting.scope = .ok v

/-- What is read at a tier from at most `n` tokens is a tree of that tier. -/
def Sound (σ : Type) [Tape σ] (setting : Setting) (k n : Nat) : Prop :=
  ∀ (s u : σ) (v : Value), (rest s).length ≤ n → Clean (rest s) →
    (rung setting k).run s = .ok v u → Parses setting k (rest s) v (rest u)

theorem Parses.clean {k : Nat} {ts next : List Token} {v : Value}
    (parses : Parses setting k ts v next) (clean : Clean ts) : Clean next := by
  obtain ⟨t, rfl, -, fits, -⟩ := parses
  exact clean.behind fits

section Tiers

variable {n : Nat}

theorem parses_chain {k : Nat} (low : k < 4) (operand : Sound σ setting (k + 1) n) {s u : σ}
    {v : Value} (run : (rung setting k).run s = .ok v u)
    (bound : (rest s).length ≤ n) (clean : Clean (rest s)) :
    Parses setting k (rest s) v (rest u) := by
  have shrinks : Shrinks (rung setting (k + 1) : Cursor σ Value) := shrinks_rung setting (by omega)
  rw [rung_tier setting low, tier_eq] at run
  obtain ⟨a, w, first, run⟩ := run_bind_eq_ok run
  have parses := operand _ _ _ bound clean first
  have clean' := parses.clean clean
  have bound' := shrinks.length_le first
  obtain ⟨t, here, tier, fits, value⟩ := parses
  have start : Parses setting k (rest s) a (rest w) ∧ Clean (rest w) ∧ (rest w).length ≤ n :=
    ⟨⟨t, here, Nat.le_of_succ_le tier, fits, value⟩, clean', by omega⟩
  refine (chainOn_invariant shrinks _ _ (motive := fun v u => Parses setting k (rest s) v (rest u) ∧
    Clean (rest u) ∧ (rest u).length ≤ n) ?_ start run).1
  -- Every turn makes a larger tree of the one so far and the next operand.
  rintro op a s' b w c found ⟨⟨t, here, tier, fits, value⟩, clean, bound⟩ second met
  obtain ⟨token, head, known⟩ := Option.bind_eq_some_iff.mp found
  obtain ⟨rfl, rfl⟩ := Operation.on_eq_some.mp known
  obtain ⟨there, clean'⟩ := clean_advanced clean head (by simp [op.mark_ne (m := .quote) rfl])
  have shorter := advanced_shorter head
  have right := operand _ _ _ (by omega) clean' second
  have clean'' := right.clean clean'
  obtain ⟨t', there', tier', fits', value'⟩ := right
  have bound' := shrinks.length_le second
  refine ⟨⟨.binary op t t', ?_, Nat.le_refl _, ?_, ?_⟩, clean'', by omega⟩
  · rw [here, there, there', Tree.yield, List.append_assoc, List.cons_append]
  · have sides := op.sideTiers_of_tier_lt low
    exact ⟨sides.1 ▸ tier, sides.2 ▸ tier', by rwa [← there', ← there], fits'⟩
  · rw [Tree.value, value, value']
    exact met

theorem parses_power (operand : Sound σ setting 5 n) (below : ∀ m < n, Sound σ setting 4 m)
    {s u : σ} {v : Value} (run : (rung setting 4).run s = .ok v u) (bound : (rest s).length ≤ n)
    (clean : Clean (rest s)) : Parses setting 4 (rest s) v (rest u) := by
  have shrinks : Shrinks (rung setting 5 : Cursor σ Value) := shrinks_rung setting (by decide)
  rw [rung_four, power_eq shrinks] at run
  obtain ⟨a, w, first, run⟩ := run_bind_eq_ok run
  have base := operand _ _ _ bound clean first
  have clean' := base.clean clean
  have bound' := shrinks.length_le first
  obtain ⟨t, here, tier, fits, value⟩ := base
  by_cases caret : (rest w).head? = some (.mark .caret)
  · obtain ⟨there, clean''⟩ := clean_advanced clean' caret (by decide)
    have shorter := advanced_shorter caret
    rw [powerAfter_step _ _ caret, ← rung_four] at run
    obtain ⟨b, w', second, lifted⟩ := run_bind_eq_ok run
    obtain ⟨met, rfl⟩ := run_lift_eq_ok lifted
    have exponent := below (rest (advanced w)).length (by omega) _ _ _ (Nat.le_refl _) clean'' second
    obtain ⟨t', there', tier', fits', value'⟩ := exponent
    refine ⟨.binary .power t t', ?_, Nat.le_refl _, ⟨tier, tier', ?_, fits'⟩, ?_⟩
    · rw [here, there, there', Tree.yield, List.append_assoc, List.cons_append]
      rfl
    · rwa [there, there'] at fits
    · rw [Tree.value, value, value']
      exact met
  · rw [powerAfter_stop _ _ caret] at run
    cases run
    exact ⟨t, here, Nat.le_of_succ_le tier, fits, value⟩

end Tiers

theorem Tree.values_cons {scope : Scope} {t : Tree} {ts : List Tree} {v : Value} {vs : List Value}
    (value : t.value scope = .ok v) (values : Tree.values scope ts = .ok vs) :
    Tree.values scope (t :: ts) = .ok (v :: vs) := by
  rw [Tree.values, value, values]
  rfl

section Arguments

variable {n : Nat} (inner : Sound σ setting 0 n) (admitsError : Nat → Bool)

include inner in
theorem parses_argumentsOn (args : List Value) (refused : Option Value) {s u : σ}
    {given : Arguments}
    (run : (argumentsOn (whole setting) false admitsError args refused).run s = .ok given u)
    (bound : (rest s).length ≤ n) (clean : Clean (rest s)) :
    ∃ t ts vs, rest s = Tree.yieldAll (t :: ts) ++ rest u ∧ Tree.FitAll (t :: ts) (rest u) ∧
      Tree.values setting.scope (t :: ts) = .ok vs ∧
      given = .complete (args ++ vs) (refusedFrom admitsError args refused vs) := by
  induction hm : (rest s).length using Nat.strongRecOn generalizing args refused s with
  | ind m ih =>
    rw [argumentsOn_eq (shrinks_whole setting)] at run
    obtain ⟨v, w, first, run⟩ := run_bind_eq_ok run
    have bound' := (shrinks_whole setting).length_le first
    rw [← rung_zero] at first
    have parses := inner _ _ _ bound clean first
    have clean' := parses.clean clean
    obtain ⟨t, here, -, fits, value⟩ := parses
    rw [argumentsAfter, Bool.and_false, if_neg (by simp), run_bind_ok (run_atMark _ w)] at run
    by_cases comma : (rest w).head? = some (.mark .comma)
    · obtain ⟨there, clean''⟩ := clean_advanced clean' comma (by decide)
      have shorter := advanced_shorter comma
      rw [if_pos (by simpa using comma), run_bind_ok (run_advance w)] at run
      obtain ⟨t', ts, vs, there', fits', values, rfl⟩ :=
        ih _ (by omega) (args ++ [v]) _ run (by omega) clean'' rfl
      refine ⟨t, t' :: ts, v :: vs, ?_, ⟨?_, fits'⟩, ?_, ?_⟩
      · rw [Tree.yieldAll_append, if_neg (by simp), ← there', ← there, here]
      · rwa [there, there'] at fits
      · exact Tree.values_cons value values
      · simp [refusedFrom]
    · rw [if_neg (by simpa using comma)] at run
      cases run
      exact ⟨t, [], [v], here, fits, Tree.values_cons value rfl, rfl⟩

include inner in
theorem parses_listed {s u : σ} {given : Arguments}
    (run : (listed (whole setting) false admitsError).run s = .ok given u)
    (bound : (rest s).length ≤ n) (clean : Clean (rest s)) :
    ∃ ts vs, rest s = Tree.yieldAll ts ++ rest u ∧ Tree.FitAll ts (rest u) ∧
      Tree.values setting.scope ts = .ok vs ∧
      given = .complete vs (refusedFrom admitsError [] none vs) ∧
      ((rest u).head? = some (.mark .rightBracket) → ts ≠ [.missing]) := by
  rw [listed_eq, run_bind_ok (run_atMark _ _)] at run
  by_cases closed : (rest s).head? = some (.mark .rightBracket)
  · rw [if_pos (by simpa using closed)] at run
    cases run
    exact ⟨[], [], rfl, trivial, rfl, rfl, by simp⟩
  · rw [if_neg (by simpa using closed)] at run
    obtain ⟨t, ts, vs, here, fits, values, rfl⟩ :=
      parses_argumentsOn inner admitsError [] none run bound clean
    refine ⟨t :: ts, vs, here, fits, values, rfl, fun behind missing => closed ?_⟩
    rw [here, missing]
    exact behind

include inner in
theorem parses_called (default : setting.legacy = false) {name : String}
    (known : isName name = true) {s u : σ} {v : Value}
    (called : Called setting (whole setting) name s v u)
    (opened : (rest s).head? = some (.mark .leftBracket)) (bound : (rest s).length ≤ n + 1)
    (clean : Clean (rest s)) : Parses setting 5 (.word name :: rest s) v (rest u) := by
  obtain ⟨there, clean'⟩ := clean_advanced clean opened (by decide)
  have shorter := advanced_shorter opened
  cases called with
  | unknown legacy =>
      rw [default] at legacy
      cases legacy
  | abandoned run =>
      rw [default] at run
      obtain ⟨_, _, _, _, _, impossible, _⟩ := parses_listed inner _ run (by omega) clean'
      cases impossible
  | complete run closed answered =>
      rw [default] at run
      obtain ⟨ts, vs, here, fits, values, complete, given⟩ :=
        parses_listed inner _ run (by omega) clean'
      cases complete
      rw [here] at clean'
      rw [Clean, Tree.bare_yieldAll ts fits fun t _ _ _ fits => t.bare_yield fits] at clean'
      obtain ⟨there', -⟩ := clean_advanced (List.append_cancel_left clean') closed (by decide)
      refine ⟨.call name ts, ?_, Nat.le_refl _, ⟨known, given closed, by rwa [← there']⟩, ?_⟩
      · simp only [Tree.yield, List.cons_append, List.append_assoc, List.nil_append]
        rw [there, here, ← there']
      · rw [Tree.value, values, ← answered]
        exact (answer_eq name _).symm

end Arguments

theorem parses_operand (default : setting.legacy = false) {n : Nat}
    (below : ∀ m < n, ∀ k ≤ 5, Sound σ setting k m) {s u : σ} {v : Value}
    (operand : Operand setting (whole setting) s v u) (bound : (rest s).length ≤ n)
    (clean : Clean (rest s)) : Parses setting 5 (rest s) v (rest u) := by
  cases operand with
  | missing idle => exact ⟨.missing, rfl, Nat.le_refl _, idle, rfl⟩
  | @number w head starts =>
      obtain ⟨there, -⟩ := clean_advanced clean head (by simp)
      exact ⟨.number w, there, Nat.le_refl _, starts, rfl⟩
  | @keyword w b head starts truth =>
      obtain ⟨there, -⟩ := clean_advanced clean head (by simp)
      refine ⟨.keyword w, there, Nat.le_refl _, ⟨starts, by simp [isKeyword, truth]⟩, ?_⟩
      rw [Tree.value, truth]
      cases b <;> rfl
  | @text content ts unquoted here =>
      rw [here] at clean
      have there := (run_quotation_closed unquoted here).2
      rw [skipSpaces_settled (clean.behind_quotation unquoted).settled] at there
      refine ⟨.text content, ?_, Nat.le_refl _, unquoted, rfl⟩
      rw [here, there]
      simp [Tree.yield]
  | @name x _ head named unopened read =>
      obtain ⟨there, -⟩ := clean_advanced clean head (by simp)
      exact ⟨.name x, there, Nat.le_refl _, ⟨named, unopened⟩, read⟩
  | @sign o v' _ head run =>
      obtain ⟨there, clean'⟩ := clean_advanced clean head (by cases o <;> decide)
      have shorter := advanced_shorter head
      rw [← rung_five] at run
      obtain ⟨t, here, tier, fits, value⟩ := below (rest (advanced s)).length (by omega) 5
        (Nat.le_refl 5) _ _ _ (Nat.le_refl _) clean' run
      refine ⟨.sign o t, ?_, Nat.le_refl _, ⟨Nat.le_antisymm t.tier_le tier, fits⟩, ?_⟩
      · rw [there, here]
        rfl
      · rw [Tree.value, value]
        rfl
  | bracket opened run closed =>
      obtain ⟨there, clean'⟩ := clean_advanced clean opened (by decide)
      have shorter := advanced_shorter opened
      rw [← rung_zero] at run
      have parses := below (rest (advanced s)).length (by omega) 0 (Nat.zero_le 5) _ _ _
        (Nat.le_refl _) clean' run
      obtain ⟨there', -⟩ := clean_advanced (parses.clean clean') closed (by decide)
      obtain ⟨t, here, -, fits, value⟩ := parses
      refine ⟨.bracket t, ?_, Nat.le_refl _, ?_, value⟩
      · simp only [Tree.yield, List.cons_append, List.append_assoc, List.nil_append]
        rw [there, here, ← there']
      · rw [there'] at fits
        exact fits
  | call head named opened called =>
      obtain ⟨there, clean'⟩ := clean_advanced clean head (by simp)
      have shorter := advanced_shorter head
      rw [there]
      exact parses_called (below (rest (advanced s)).length (by omega) 0 (Nat.zero_le 5)) default
        named called opened (Nat.le_succ _) clean'

/-- Whatever a run in default mode reads is a tree of the grammar, and it has found its value. -/
theorem sound_rung (default : setting.legacy = false) (n k : Nat) (le : k ≤ 5) :
    Sound σ setting k n := by
  apply rung_induction (motive := Sound σ setting) _ _ _ n k le
  · intro n below s u v bound clean run
    rw [rung_five] at run
    exact parses_operand default below (operand_of_run run) bound clean
  · exact fun n below five s u v bound clean run => parses_power five below run bound clean
  · exact fun n k low above s u v bound clean run => parses_chain low above run bound clean

theorem parses_whole (default : setting.legacy = false) {s u : σ} {v : Value}
    (run : (whole setting).run s = .ok v u) (clean : Clean (rest s)) :
    ∃ t : Tree, rest s = t.yield ++ rest u ∧ t.Fits (rest u) ∧ t.value setting.scope = .ok v := by
  rw [← rung_zero] at run
  obtain ⟨t, here, -, fits, value⟩ :=
    sound_rung default (rest s).length 0 (Nat.zero_le 5) s u v (Nat.le_refl _) clean run
  exact ⟨t, here, fits, value⟩

end Formulary
