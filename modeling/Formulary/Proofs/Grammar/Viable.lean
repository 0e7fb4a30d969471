import Formulary.Proofs.Fault.Reach
import Formulary.Proofs.Grammar.Parts
import Formulary.Proofs.Grammar.Substitution
import Formulary.Proofs.Reading.Parallel

set_option autoImplicit false

namespace Formulary

open Tape Rule Token

def Missed (m : Separator) (left : List Token) : Prop :=
  m = .rightBracket ∨ m = .quote ∧ left = []

/-- The tokens in front of `left` start a tree that goes on with `m` and ends in closing brackets. -/
def Completes (k : Nat) (ts : List Token) (m : Separator) (left : List Token) : Prop :=
  Missed m left ∧ ∃ (read : List Token) (depth : Nat) (t : Tree), ts = read ++ left ∧
    t.yield = read ++ .mark m :: List.replicate depth (.mark .rightBracket) ∧
    k ≤ t.tier ∧ ∀ next, t.Fits next

def CompletesAll (ts : List Token) (m : Separator) (left : List Token) : Prop :=
  Missed m left ∧ ∃ (read : List Token) (depth : Nat) (us : List Tree), ts = read ++ left ∧
    Tree.yieldAll us ++ [.mark .rightBracket] =
      read ++ .mark m :: List.replicate depth (.mark .rightBracket) ∧
    us ≠ [] ∧ ∀ next, Tree.FitAll us (.mark .rightBracket :: next)

variable {σ : Type} [Tape σ] {setting : Setting}

def Viable (σ : Type) [Tape σ] (setting : Setting) (k n : Nat) : Prop :=
  ∀ (s u : σ) (m : Separator) (found : Option Token), (rest s).length ≤ n → Clean (rest s) →
    (rung setting k).run s = .error (.unexpected m found) u → Completes k (rest s) m (rest u)

section Completes

variable {k : Nat} {m : Separator} {ts left : List Token}

theorem Completes.above {j : Nat} (completes : Completes k ts m left) (le : j ≤ k) :
    Completes j ts m left := by
  obtain ⟨missed, read, depth, t, here, yield, tier, fits⟩ := completes
  exact ⟨missed, read, depth, t, here, yield, Nat.le_trans le tier, fits⟩

theorem fits_binary {op : Operation} {a b : Tree} {next next' : List Token}
    (left : op.leftTier ≤ a.tier) (right : op.rightTier ≤ b.tier)
    (fits : a.Fits (.mark op.mark :: next')) (fits' : b.Fits next) :
    (Tree.binary op a b).Fits next :=
  ⟨left, right, Tree.fits_of_head (Tree.head_cons _ _ _) fits, fits'⟩

theorem fits_closed {t : Tree} {next : List Token} (fits : t.Fits next) (more : List Token) :
    t.Fits (.mark .rightBracket :: more) :=
  Tree.fits_append (Tree.fits_alone fits) more

theorem Completes.binary {op : Operation} {a : Tree} {behind : List Token}
    (here : ts = a.yield ++ .mark op.mark :: behind) (tier : op.leftTier ≤ a.tier)
    (fits : a.Fits (.mark op.mark :: behind))
    (completes : Completes op.rightTier behind m left) : Completes op.tier ts m left := by
  obtain ⟨missed, read, depth, b, rfl, yield, tier', fits'⟩ := completes
  refine ⟨missed, a.yield ++ .mark op.mark :: read, depth, .binary op a b, by simp [here], ?_,
    Nat.le_refl _, fun next => fits_binary tier tier' fits (fits' next)⟩
  simp [Tree.yield, yield]

theorem Completes.sign {o : Operator.Additive} (completes : Completes 5 ts m left) :
    Completes 5 (.mark o.mark :: ts) m left := by
  obtain ⟨missed, read, depth, t, rfl, yield, tier, fits⟩ := completes
  refine ⟨missed, .mark o.mark :: read, depth, .sign o t, rfl, ?_, Nat.le_refl _,
    fun next => ⟨Nat.le_antisymm t.tier_le tier, fits next⟩⟩
  rw [Tree.yield, yield, List.cons_append]

theorem Completes.bracket (completes : Completes 0 ts m left) :
    Completes 5 (.mark .leftBracket :: ts) m left := by
  obtain ⟨missed, read, depth, t, rfl, yield, -, fits⟩ := completes
  refine ⟨missed, .mark .leftBracket :: read, depth + 1, .bracket t, rfl, ?_, Nat.le_refl _,
    fun next => fits _⟩
  rw [Tree.yield, yield, List.replicate_succ']
  simp

theorem completes_closing {t : Tree} (fits : t.Fits left) :
    Completes 5 (.mark .leftBracket :: (t.yield ++ left)) .rightBracket left :=
  ⟨.inl rfl, .mark .leftBracket :: t.yield, 0, .bracket t, rfl, rfl, Nat.le_refl _,
    fits_closed fits⟩

theorem completes_string {content : List Token} (unquoted : .mark .quote ∉ content) :
    Completes 5 (.mark .quote :: content) .quote [] :=
  ⟨.inr ⟨rfl, rfl⟩, .mark .quote :: content, 0, .text content, by simp, rfl, Nat.le_refl _,
    fun _ => unquoted⟩

theorem Completes.argument (completes : Completes 0 ts m left) : CompletesAll ts m left := by
  obtain ⟨missed, read, depth, t, rfl, yield, -, fits⟩ := completes
  refine ⟨missed, read, depth + 1, [t], rfl, ?_, by simp, fun next => fits _⟩
  rw [Tree.yieldAll, yield, List.replicate_succ']
  simp

theorem completes_lastArgument {t : Tree} (fits : t.Fits left) :
    CompletesAll (t.yield ++ left) .rightBracket left :=
  ⟨.inl rfl, t.yield, 0, [t], rfl, rfl, by simp, fits_closed fits⟩

theorem CompletesAll.another {t : Tree} {behind : List Token}
    (here : ts = t.yield ++ .mark .comma :: behind) (fits : t.Fits (.mark .comma :: behind))
    (completes : CompletesAll behind m left) : CompletesAll ts m left := by
  obtain ⟨missed, read, depth, us, rfl, yield, given, fits'⟩ := completes
  obtain ⟨u, us, rfl⟩ := List.exists_cons_of_ne_nil given
  refine ⟨missed, t.yield ++ .mark .comma :: read, depth, t :: u :: us, by simp [here], ?_, by simp,
    fun next => ⟨Tree.fits_of_head (Tree.head_cons _ _ _) fits, fits' next⟩⟩
  rw [Tree.yieldAll, List.append_assoc, List.cons_append, yield, List.append_assoc,
    List.cons_append]

theorem CompletesAll.call {name : String} (named : isName name = true)
    (completes : CompletesAll ts m left) :
    Completes 5 (.word name :: .mark .leftBracket :: ts) m left := by
  obtain ⟨missed, read, depth, us, rfl, yield, -, fits⟩ := completes
  have written : ∃ args, args ≠ [.missing] ∧ Tree.yieldAll args = Tree.yieldAll us ∧
      ∀ next, Tree.FitAll args (.mark .rightBracket :: next) := by
    by_cases missing : us = [.missing]
    · exact ⟨[], by simp, by rw [missing]; rfl, fun _ => trivial⟩
    · exact ⟨us, missing, rfl, fits⟩
  obtain ⟨args, given, same, fits⟩ := written
  refine ⟨missed, .word name :: .mark .leftBracket :: read, depth, .call name args, rfl, ?_,
    Nat.le_refl _, fun next => ⟨named, given, fits next⟩⟩
  rw [Tree.yield, same, yield, List.cons_append, List.cons_append]

end Completes

section Tiers

variable (default : setting.legacy = false) {n : Nat}

theorem run_expect_missed {m m' : Separator} {found : Option Token} {s u : σ}
    (run : (expect m' : Cursor σ Unit).run s = .error (.unexpected m found) u) :
    m = m' ∧ u = s ∧ (rest s).head? ≠ some (.mark m') := by
  rw [run_expect] at run
  split at run
  · cases run
  · rename_i missing
    cases run
    exact ⟨rfl, rfl, missing⟩

include default in
theorem tree_of_rung {k : Nat} (le : k ≤ 5) {s w : σ} {v : Value} (clean : Clean (rest s))
    (run : (rung setting k).run s = .ok v w) :
    ∃ t : Tree, rest s = t.yield ++ rest w ∧ k ≤ t.tier ∧ t.Fits (rest w) ∧ Clean (rest w) ∧
      (rest w).length ≤ (rest s).length := by
  have parses := sound_rung default _ k le _ _ _ (Nat.le_refl _) clean run
  have clean' := parses.clean clean
  obtain ⟨t, here, tier, fits, -⟩ := parses
  exact ⟨t, here, tier, fits, clean', (shrinks_rung setting le).length_le run⟩

omit [Tape σ] in
theorem lift_unexpected {α : Type} {e : Except Fault α} (tame : Tame e) {s u : σ} {m : Separator}
    {found : Option Token} : (lift e : Cursor σ α).run s ≠ .error (.unexpected m found) u := by
  intro run
  have data := tame _ (run_lift_eq_error run)
  cases data

include default in
theorem completes_chain {k : Nat} (low : k < 4) (operand : Viable σ setting (k + 1) n)
    {ts : List Token} {t : Tree} {a : Value} {s u : σ} {m : Separator} {found : Option Token}
    (here : ts = t.yield ++ rest s) (tier : k ≤ t.tier) (fits : t.Fits (rest s))
    (clean : Clean (rest s)) (bound : (rest s).length ≤ n)
    (run : (chainOn (rung setting (k + 1)) (Operation.on k) Operation.apply a).run s =
      .error (.unexpected m found) u) : Completes k ts m (rest u) := by
  have shrinks : Shrinks (rung setting (k + 1) : Cursor σ Value) := shrinks_rung setting (by omega)
  induction size : (rest s).length using Nat.strongRecOn generalizing t a s with
  | ind j ih =>
    cases applies : (rest s).head?.bind (Operation.on k) with
    | none =>
        rw [chainOn_stop _ _ a applies] at run
        cases run
    | some op =>
        obtain ⟨token, head, known⟩ := Option.bind_eq_some_iff.mp applies
        obtain ⟨rfl, rfl⟩ := Operation.on_eq_some.mp known
        obtain ⟨there, clean'⟩ := clean_advanced clean head (by simp [op.mark_ne (m := .quote) rfl])
        have shorter := advanced_shorter head
        have sides := op.sideTiers_of_tier_lt low
        rw [chainOn_step shrinks _ _ a applies] at run
        rw [there] at here fits
        obtain run | ⟨b, w, second, run⟩ := run_bind_eq_error run
        · have completes := operand _ _ _ _ (by omega) clean' run
          exact Completes.binary here (sides.1 ▸ tier) fits (sides.2 ▸ completes)
        · obtain ⟨t', there', tier', fits', clean'', bound'⟩ :=
            tree_of_rung default (by omega) clean' second
          obtain run | ⟨c, w', lifted, onward⟩ := run_bind_eq_error run
          · exact absurd run (lift_unexpected (tame_join op a b))
          · obtain ⟨-, rfl⟩ := run_lift_eq_ok lifted
            refine ih _ (by omega) (t := .binary op t t') ?_ (Nat.le_refl _)
              (fits_binary (sides.1 ▸ tier) (sides.2 ▸ tier') fits fits') clean'' (by omega) onward rfl
            rw [here, there', Tree.yield, List.append_assoc, List.cons_append]

include default in
theorem viable_chain {k : Nat} (low : k < 4) (operand : Viable σ setting (k + 1) n) :
    Viable σ setting k n := by
  intro s u m found bound clean run
  rw [rung_tier setting low, tier_eq] at run
  obtain run | ⟨a, w, first, run⟩ := run_bind_eq_error run
  · exact (operand s u m found bound clean run).above (Nat.le_succ k)
  · obtain ⟨t, here, tier, fits, clean', bound'⟩ := tree_of_rung default (by omega) clean first
    exact completes_chain default low operand here (Nat.le_of_succ_le tier) fits clean' (by omega) run

include default in
theorem viable_power (operand : Viable σ setting 5 n) (below : ∀ j < n, Viable σ setting 4 j) :
    Viable σ setting 4 n := by
  intro s u m found bound clean run
  have shrinks : Shrinks (rung setting 5 : Cursor σ Value) := shrinks_rung setting (Nat.le_refl 5)
  rw [rung_four, power_eq shrinks] at run
  obtain run | ⟨a, w, first, run⟩ := run_bind_eq_error run
  · exact (operand s u m found bound clean run).above (Nat.le_succ 4)
  · obtain ⟨t, here, tier, fits, clean', bound'⟩ :=
      tree_of_rung default (Nat.le_refl 5) clean first
    by_cases caret : (rest w).head? = some (.mark .caret)
    · obtain ⟨there, clean''⟩ := clean_advanced clean' caret (by decide)
      have shorter := advanced_shorter caret
      rw [powerAfter_step _ a caret, ← rung_four] at run
      rw [there] at here fits
      obtain run | ⟨b, w', -, run⟩ := run_bind_eq_error run
      · have completes := below _ (by omega) _ _ _ _ (Nat.le_refl _) clean'' run
        have larger : Completes Operation.power.tier (rest s) m (rest u) :=
          Completes.binary here tier fits completes
        exact larger
      · exact absurd run (lift_unexpected (tame_join .power a b))
    · rw [powerAfter_stop _ a caret] at run
      cases run

end Tiers

section Operands

variable (default : setting.legacy = false) {n : Nat} (inner : Viable σ setting 0 n)

theorem completes_close {name : String} {args : List Value} {refused : Option Value} {s u : σ}
    {m : Separator} {found : Option Token}
    (run : (close (Function.builtIn.find? name) (.complete args refused) : Cursor σ Value).run s =
      .error (.unexpected m found) u) :
    m = .rightBracket ∧ u = s ∧ (rest s).head? ≠ some (.mark .rightBracket) := by
  obtain run | ⟨_, t, -, run⟩ := run_bind_eq_error run
  · exact run_expect_missed run
  · exact absurd run (lift_unexpected (tame_answer name args refused))

include default inner in
theorem completes_argument {name : String} {args : List Value} {refused : Option Value} {s u : σ}
    {m : Separator} {found : Option Token} (bound : (rest s).length ≤ n) (clean : Clean (rest s))
    (run : (callFrom setting name args refused).run s = .error (.unexpected m found) u) :
    CompletesAll (rest s) m (rest u) := by
  induction size : (rest s).length using Nat.strongRecOn generalizing args refused s with
  | ind j ih =>
    rw [callFrom_eq, ← rung_zero] at run
    obtain run | ⟨v, w, first, run⟩ := run_bind_eq_error run
    · exact (inner _ _ _ _ bound clean run).argument
    · obtain ⟨t, here, -, fits, clean', bound'⟩ := tree_of_rung default (Nat.zero_le 5) clean first
      have kept : leaves setting name args refused v = false := by simp [leaves, default]
      rw [rung_zero] at run
      by_cases comma : (rest w).head? = some (.mark .comma)
      · obtain ⟨there, clean''⟩ := clean_advanced clean' comma (by decide)
        have shorter := advanced_shorter comma
        rw [run_another kept comma] at run
        rw [there] at here fits
        exact (ih _ (by omega) (by omega) clean'' run rfl).another here fits
      · rw [run_last kept comma] at run
        obtain ⟨rfl, rfl, -⟩ := completes_close run
        rw [here]
        exact completes_lastArgument fits

include default inner in
theorem completes_call {name : String} (named : isName name = true) {s u : σ} {m : Separator}
    {found : Option Token} (opened : (rest s).head? = some (.mark .leftBracket))
    (bound : (rest (advanced s)).length ≤ n) (clean : Clean (rest s))
    (run : (Rule.call setting.legacy (whole setting) name).run s = .error (.unexpected m found) u) :
    Completes 5 (.word name :: rest s) m (rest u) := by
  have entered : enters setting name = true := by simp [enters, default]
  obtain ⟨there, clean'⟩ := clean_advanced clean opened (by decide)
  by_cases closed : (rest (advanced s)).head? = some (.mark .rightBracket)
  · rw [run_noArguments entered closed] at run
    exact absurd closed (completes_close run).2.2
  · rw [run_arguments entered closed] at run
    rw [there]
    exact (completes_argument default inner bound clean' run).call named

include default inner in
theorem completes_word {w : String} {s u : σ} {m : Separator} {found : Option Token}
    (head : (rest s).head? = some (.word w)) (bound : (rest (advanced s)).length ≤ n)
    (clean : Clean (rest s)) (run : (rung setting 5).run s = .error (.unexpected m found) u) :
    Completes 5 (rest s) m (rest u) := by
  obtain ⟨there, clean'⟩ := clean_advanced clean head (by simp)
  cases named : isName w with
  | true =>
      rw [run_name named head, run_bind_ok (run_atMark _ _)] at run
      by_cases opened : (rest (advanced s)).head? = some (.mark .leftBracket)
      · have shorter := advanced_shorter opened
        rw [if_pos (by simpa using opened)] at run
        rw [there]
        exact completes_call default inner named opened (by omega) clean' run
      · rw [if_neg (by simpa using opened)] at run
        exact absurd run (lift_unexpected (tame_read setting.scope w))
  | false =>
      have ends : ∃ v t, (Rule.word setting (whole setting) w).run s = .ok v t :=
        run_unnamed named
      obtain ⟨v, t, ended⟩ := ends
      rw [run_rung_word head, ended] at run
      cases run

include default inner in
theorem completes_bracket {s u : σ} {m : Separator} {found : Option Token}
    (opened : (rest s).head? = some (.mark .leftBracket)) (bound : (rest (advanced s)).length ≤ n)
    (clean : Clean (rest s)) (run : (rung setting 5).run s = .error (.unexpected m found) u) :
    Completes 5 (rest s) m (rest u) := by
  obtain ⟨there, clean'⟩ := clean_advanced clean opened (by decide)
  rw [run_opened opened, ← rung_zero] at run
  rw [there]
  obtain run | ⟨v, t, first, run⟩ := run_bind_eq_error run
  · exact (inner _ _ _ _ bound clean' run).bracket
  · obtain run | ⟨_, _, -, run⟩ := run_bind_eq_error run
    · obtain ⟨rfl, rfl, -⟩ := run_expect_missed run
      obtain ⟨t, here, -, fits, -⟩ := tree_of_rung default (Nat.zero_le 5) clean' first
      rw [here]
      exact completes_closing fits
    · cases run

theorem completes_quotation {s u : σ} {m : Separator} {found : Option Token}
    (head : (rest s).head? = some (.mark .quote))
    (run : (quotation : Cursor σ Value).run s = .error (.unexpected m found) u) :
    Completes 5 (rest s) m (rest u) := by
  obtain ⟨ts, here⟩ := List.head?_eq_some_iff.mp head
  by_cases closed : .mark .quote ∈ ts
  · obtain ⟨content, ts, rfl, unquoted⟩ := List.eq_append_cons_of_mem closed
    rw [(run_quotation_closed unquoted here).1] at run
    cases run
  · obtain ⟨run', behind⟩ := run_quotation_open closed here
    rw [run'] at run
    cases run
    rw [here, behind]
    exact completes_string closed

include default in
theorem viable_operand {n : Nat} (below : ∀ j < n, ∀ k ≤ 5, Viable σ setting k j) :
    Viable σ setting 5 n := by
  intro s u m found bound clean run
  have inner {t : Token} (head : (rest s).head? = some t) {k : Nat} (le : k ≤ 5) :
      Viable σ setting k (rest (advanced s)).length := by
    have shorter := advanced_shorter head
    exact below _ (by omega) k le
  obtain ⟨o, signed, inside⟩ | opened | ⟨head, unpaired⟩ | ⟨w, head⟩ := operand_error run
  · obtain ⟨token, head, known⟩ := Option.bind_eq_some_iff.mp signed
    obtain rfl := Operator.Additive.mark_of_additive? known
    obtain ⟨there, clean'⟩ := clean_advanced clean head (by cases o <;> decide)
    rw [there]
    exact (inner head (Nat.le_refl 5) _ _ _ _ (Nat.le_refl _) clean' inside).sign
  · exact completes_bracket default (inner opened (Nat.zero_le 5)) opened (Nat.le_refl _) clean run
  · exact completes_quotation head unpaired
  · exact completes_word default (inner head (Nat.zero_le 5)) head (Nat.le_refl _) clean run

end Operands

theorem viable_rung (default : setting.legacy = false) (n : Nat) {k : Nat} (le : k ≤ 5) :
    Viable σ setting k n := by
  apply rung_induction (motive := Viable σ setting) _ _ _ n k le
  · exact fun n below => viable_operand default below
  · exact fun n below five => viable_power default five below
  · exact fun n k low above => viable_chain default low above

theorem completes_whole (default : setting.legacy = false) {s u : σ} {m : Separator}
    {found : Option Token} (clean : Clean (rest s))
    (run : (whole setting).run s = .error (.unexpected m found) u) :
    Completes 0 (rest s) m (rest u) := by
  rw [← rung_zero] at run
  exact viable_rung default _ (Nat.zero_le 5) s u m found (Nat.le_refl _) clean run

end Formulary
