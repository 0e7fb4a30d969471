import Formulary.Proofs.Grammar.Gives

set_option autoImplicit false

namespace Formulary

open Tape Rule Token

variable {σ : Type} [Tape σ] {Cut : σ → Prop} {setting : Setting}

def Reads (Cut : σ → Prop) (setting : Setting) (k : Nat) (t : Tree) : Prop :=
  ∀ (next : List Token) (s : σ), t.Fits next → Settled next → Stops k next →
    rest s = t.yield ++ next →
    Gives Cut (t.value setting.scope) next ((rung setting k).run s)

/-- Reading a tree at a tier that groups to the left: the tree may be the start of a chain. -/
def Chains (Cut : σ → Prop) (setting : Setting) (k : Nat) (t : Tree) : Prop :=
  ∀ (e : Value → Except Fault Value) (next next' : List Token) (s : σ), t.Fits next →
    Settled next → Stops (k + 1) next → rest s = t.yield ++ next →
    (∀ v u, t.value setting.scope = .ok v → rest u = next →
      Gives Cut (e v) next' ((chainOn (rung setting (k + 1)) (Operation.on k) Operation.apply
        v).run u)) →
    Gives Cut (t.value setting.scope >>= e) next' ((rung setting k).run s)

section Tiers

variable (noted : Noted Cut setting)

include noted in
theorem chains_of_reads {k : Nat} (low : k < 4) {t : Tree} (h : Reads Cut setting (k + 1) t) :
    Chains Cut setting k t := by
  intro e next next' s fits settled stops here after
  rw [rung_tier setting low, tier_eq]
  apply (h next s fits settled stops here).bind
  · intro a
    exact keeps_chainOn noted.course (keeps_rung noted.course setting (by omega)) _ _ a
  · exact after

include noted in
theorem chains_binary {op : Operation} (low : op.tier < 4) {a b : Tree}
    (left : op.tier ≤ a.tier → Chains Cut setting op.tier a)
    (right : op.tier + 1 ≤ b.tier → Reads Cut setting (op.tier + 1) b) :
    Chains Cut setting op.tier (.binary op a b) := by
  intro e next next' s fits settled stops here after
  obtain ⟨leftTier, rightTier, fitsLeft, fitsRight⟩ := fits
  rw [(op.sideTiers_of_tier_lt low).1] at leftTier
  rw [(op.sideTiers_of_tier_lt low).2] at rightTier
  have shrinks : Shrinks (rung setting (op.tier + 1) : Cursor σ Value) :=
    shrinks_rung setting (by omega)
  have keeps : Keeps (fun s t => Cut s → Cut t) (rung setting (op.tier + 1) : Cursor σ Value) :=
    keeps_rung noted.course setting (by omega)
  have value : (Tree.binary op a b).value setting.scope >>= e =
      a.value setting.scope >>= fun va => b.value setting.scope >>= fun vb =>
        op.meet va vb >>= e := by
    simp only [Tree.value, bind_assoc]
  rw [value]
  -- The left operand starts the chain, and the operation is one turn more of it.
  apply left leftTier _ (.mark op.mark :: (b.yield ++ next)) next' s fitsLeft
  · simp [Settled, op.mark_ne (m := .space) rfl]
  · exact stops_operation op (Nat.lt_succ_self _) _
  · rw [here, Tree.yield, List.append_assoc, List.cons_append]
  intro va u valueLeft there
  have found : (rest u).head?.bind (Operation.on op.tier) = some op := by
    rw [there]
    exact Operation.on_eq_some.mpr ⟨rfl, rfl⟩
  have behind : rest (advanced u) = b.yield ++ next := by
    rw [rest_advanced, there, List.tail_cons, skipSpaces_settled (b.settled_yield settled)]
  rw [chainOn_step shrinks _ _ _ found]
  apply (right rightTier next (advanced u) fitsRight settled stops behind).bind
  · intro vb
    exact keeps_bind noted.course (keeps_lift noted.course _)
      fun _ => keeps_chainOn noted.course keeps _ _ _
  · rintro vb w valueRight rfl
    apply (gives_lift (join Operation.apply op va vb) w).bind
    · exact keeps_chainOn noted.course keeps _ _
    · intro v w' met there'
      apply after v w' _ there'
      simp only [Tree.value, valueLeft, valueRight]
      exact met

theorem reads_of_chains {k : Nat} {t : Tree} (h : Chains Cut setting k t) :
    Reads Cut setting k t := by
  intro next s fits settled stops here
  rw [← bind_pure (t.value setting.scope)]
  apply h _ next next s fits settled stops.above here
  intro v u _ there
  rw [chainOn_stop _ _ _ (by rw [there]; exact stops.head_on)]
  exact .inr ⟨rfl, there⟩

include noted in
theorem gives_power {e : Except Fault Value} {next : List Token} {s : σ}
    (base : Gives Cut e next ((rung setting 5).run s)) (stops : Stops 4 next) :
    Gives Cut e next ((rung setting 4).run s) := by
  rw [rung_four, power_eq (shrinks_rung setting (Nat.le_refl 5)), ← bind_pure e]
  apply base.bind
  · exact keeps_powerAfter noted.course (keeps_rung noted.course setting (Nat.le_refl 5))
  · intro v u _ there
    rw [powerAfter_stop _ _ (by rw [there]; exact stops .power (Nat.le_refl 4))]
    exact .inr ⟨rfl, there⟩

include noted in
theorem gives_tier {k : Nat} (low : k < 4) {e : Except Fault Value} {next : List Token} {s : σ}
    (first : Gives Cut e next ((rung setting (k + 1)).run s)) (stops : Stops k next) :
    Gives Cut e next ((rung setting k).run s) := by
  rw [rung_tier setting low, tier_eq, ← bind_pure e]
  apply first.bind
  · exact keeps_chainOn noted.course (keeps_rung noted.course setting (by omega)) _ _
  · intro v u _ there
    rw [chainOn_stop _ _ _ (by rw [there]; exact stops.head_on)]
    exact .inr ⟨rfl, there⟩

include noted in
theorem gives_below {j k : Nat} (le : k ≤ j) (top : j ≤ 5) {e : Except Fault Value}
    {next : List Token} {s : σ} (above : Gives Cut e next ((rung setting j).run s))
    (stops : Stops k next) : Gives Cut e next ((rung setting k).run s) := by
  induction le with
  | refl => exact above
  | @step m le ih =>
      apply ih (Nat.le_of_succ_le top)
      by_cases low : m < 4
      · exact gives_tier noted low above (stops.mono le)
      · obtain rfl : m = 4 := by omega
        exact gives_power noted above (stops.mono le)

include noted in
theorem reads_power {a b : Tree} (left : 5 ≤ a.tier → Reads Cut setting 5 a)
    (right : 4 ≤ b.tier → Reads Cut setting 4 b) :
    Reads Cut setting 4 (.binary .power a b) := by
  intro next s fits settled stops here
  obtain ⟨leftTier, rightTier, fitsLeft, fitsRight⟩ := fits
  have keeps : Keeps (fun s t => Cut s → Cut t) (rung setting 5 : Cursor σ Value) :=
    keeps_rung noted.course setting (Nat.le_refl 5)
  rw [rung_four, power_eq (shrinks_rung setting (Nat.le_refl 5))]
  apply (left leftTier (.mark .caret :: (b.yield ++ next)) s fitsLeft (by simp [Settled])
    (stops_operation .power (by decide) _) ?_).bind
  · exact keeps_powerAfter noted.course keeps
  · intro va u _ there
    have behind : rest (advanced u) = b.yield ++ next := by
      rw [rest_advanced, there, List.tail_cons, skipSpaces_settled (b.settled_yield settled)]
    rw [powerAfter_step _ _ (by rw [there]; rfl), ← rung_four]
    apply (right rightTier next (advanced u) fitsRight settled stops behind).bind
    · intro vb
      exact keeps_lift noted.course _
    · rintro vb w _ rfl
      exact gives_lift (join Operator.raise () va vb) w
  · rw [here, Tree.yield, List.append_assoc, List.cons_append]
    rfl

include noted in
theorem reads_below {j k : Nat} (le : k ≤ j) (top : j ≤ 5) {t : Tree}
    (h : Reads Cut setting j t) : Reads Cut setting k t :=
  fun next s fits settled stops here =>
    gives_below noted le top (h next s fits settled (stops.mono le) here) stops

end Tiers

end Formulary
