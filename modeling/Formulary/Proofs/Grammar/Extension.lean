import Formulary.Proofs.Fault.Causes
import Formulary.Proofs.Grammar.Ladder
import Formulary.Proofs.Reading.Spaces

set_option autoImplicit false

namespace Formulary

open Tape Rule Token

def extended (more ts : List Token) : List Token := if ts = [] then skipSpaces more else ts ++ more

/-- How a run compares with the one over the extended tokens: they are the same, or the shorter one
has missed a mark. -/
def Extends {α : Type} (more : List Token) :
    EStateM.Result Fault (List Token) α → EStateM.Result Fault (List Token) α → Prop
  | .ok a s, r => r = .ok a (extended more s)
  | .error f s, r => f.isSyntax = true ∨ r = .error f (extended more s)

def Extensible {α : Type} (more : List Token) (n : Nat) (m : Cursor (List Token) α) : Prop :=
  ∀ s, (rest s).length ≤ n → Extends more (m.run s) (m.run (extended more s))

section Tapes

variable {more : List Token}

theorem extended_nil (more : List Token) : extended more [] = skipSpaces more := if_pos rfl

theorem extended_cons (more : List Token) (t : Token) (ts : List Token) :
    extended more (t :: ts) = t :: (ts ++ more) := if_neg (by simp)

theorem skipSpaces_append (ts more : List Token) :
    skipSpaces (ts ++ more) = extended more (skipSpaces ts) := by
  induction ts with
  | nil => exact (extended_nil more).symm
  | cons t ts ih =>
      by_cases space : t = .mark .space
      · subst space
        exact ih
      · have settled (us : List Token) : Settled (t :: us) := by simpa [Settled] using space
        rw [List.cons_append, skipSpaces_settled (settled _), skipSpaces_settled (settled _),
          extended_cons]

theorem head_extended {s : List Token} {t : Token} (head : (rest s).head? = some t) :
    (rest (extended more s)).head? = some t := by
  rcases List.head?_eq_some_iff.mp head with ⟨us, here⟩
  rw [rest_list] at here
  rw [here, extended_cons, rest_list, List.head?_cons]

theorem advanced_extended {s : List Token} {t : Token} (head : (rest s).head? = some t) :
    advanced (extended more s) = extended more (advanced s) := by
  rcases List.head?_eq_some_iff.mp head with ⟨us, here⟩
  rw [rest_list] at here
  rw [here, extended_cons]
  exact skipSpaces_append us more

variable (closed : (skipSpaces more).head? = some (.mark .rightBracket))

include closed

theorem head_extended_iff (s : List Token) {t : Token} (other : t ≠ .mark .rightBracket) :
    (rest (extended more s)).head? = some t ↔ (rest s).head? = some t := by
  cases s with
  | nil => simp [extended_nil, closed, Ne.symm other]
  | cons u us => simp [extended_cons]

theorem operator_extended {α : Type} {operator? : Token → Option α}
    (other : operator? (.mark .rightBracket) = none) (s : List Token) :
    (rest (extended more s)).head?.bind operator? = (rest s).head?.bind operator? := by
  cases s with
  | nil => simp [extended_nil, closed, other]
  | cons u us => simp [extended_cons]

end Tapes

section Rules

variable {α β : Type} {more : List Token}

theorem Extends.bind {m n : Cursor (List Token) α} {f g : α → Cursor (List Token) β}
    {s t : List Token} (first : Extends more (m.run s) (n.run t))
    (next : ∀ a u, m.run s = .ok a u →
      Extends more ((f a).run u) ((g a).run (extended more u))) :
    Extends more ((m >>= f).run s) ((n >>= g).run t) := by
  cases run : m.run s with
  | ok a u =>
      rw [run] at first
      rw [run_bind_ok run, run_bind_ok first]
      exact next a u run
  | error e u =>
      rw [run] at first
      rw [run_bind_error run]
      rcases first with missed | same
      · exact .inl missed
      · exact .inr (run_bind_error same)

theorem extends_lift (e : Except Fault α) (s : List Token) :
    Extends more ((lift e : Cursor (List Token) α).run s) ((lift e).run (extended more s)) := by
  cases e with
  | ok a => rfl
  | error f => exact .inr rfl

theorem extends_expect (m : Separator) (s : List Token) :
    Extends more ((expect m : Cursor (List Token) Unit).run s)
      ((expect m).run (extended more s)) := by
  rw [run_expect, run_expect]
  by_cases found : (rest s).head? = some (.mark m)
  · rw [if_pos found, if_pos (head_extended found), advanced_extended found]
    rfl
  · rw [if_neg found]
    exact .inl rfl

theorem extends_quotation {s : List Token} (head : (rest s).head? = some (.mark .quote)) :
    Extends more ((quotation : Cursor (List Token) Value).run s)
      (quotation.run (extended more s)) := by
  rcases List.head?_eq_some_iff.mp head with ⟨ts, here⟩
  obtain rfl : s = .mark .quote :: ts := here
  by_cases closed : .mark .quote ∈ ts
  · rcases List.eq_append_cons_of_mem closed with ⟨content, ts, rfl, unquoted⟩
    have longer : rest (extended more (.mark .quote :: (content ++ .mark .quote :: ts))) =
        .mark .quote :: (content ++ .mark .quote :: (ts ++ more)) := by
      rw [extended_cons, List.append_assoc, List.cons_append]
      rfl
    rcases run_quotation_closed unquoted (s := .mark .quote :: (content ++ .mark .quote :: ts))
      rfl with ⟨run, behind⟩
    rcases run_quotation_closed unquoted longer with ⟨run', behind'⟩
    rw [skipSpaces_append, ← behind] at behind'
    rw [run, run']
    exact congrArg _ behind'
  · rw [(run_quotation_open closed (s := .mark .quote :: ts) rfl).1]
    exact .inl rfl

end Rules

section Tiers

variable {more : List Token} (closed : (skipSpaces more).head? = some (.mark .rightBracket))
  {n : Nat} {setting : Setting}

include closed

theorem extensible_chain {k : Nat} (h : Extensible more n (rung setting (k + 1))) (low : k < 4)
    (a : Value) :
    Extensible more n (chainOn (rung setting (k + 1)) (Operation.on k) Operation.apply a) := by
  intro s bound
  have shrinks : Shrinks (rung setting (k + 1) : Cursor (List Token) Value) :=
    shrinks_rung setting (by omega)
  induction size : (rest s).length using Nat.strongRecOn generalizing a s with
  | ind m ih =>
    have same : (rest (extended more s)).head?.bind (Operation.on k) =
        (rest s).head?.bind (Operation.on k) := operator_extended closed rfl s
    cases found : (rest s).head?.bind (Operation.on k) with
    | none =>
        rw [chainOn_stop _ _ a found, chainOn_stop _ _ a (same.trans found)]
        rfl
    | some op =>
        rcases Option.bind_eq_some_iff.mp found with ⟨token, head, -⟩
        have shorter := advanced_shorter head
        rw [chainOn_step shrinks _ _ a found, chainOn_step shrinks _ _ a (same.trans found),
          advanced_extended head]
        apply (h (advanced s) (by omega)).bind
        intro b t run
        have bound' := shrinks.length_le run
        apply (extends_lift (join Operation.apply op a b) t).bind
        intro v u lifted
        rcases run_lift_eq_ok lifted with ⟨-, rfl⟩
        exact ih _ (by omega) v u (by omega) rfl

theorem extensible_power (h : Extensible more n (rung setting 5)) :
    Extensible more n (rung setting 4) := by
  intro s bound
  have shrinks : Shrinks (rung setting 5 : Cursor (List Token) Value) :=
    shrinks_rung setting (by decide)
  rw [rung_four]
  induction size : (rest s).length using Nat.strongRecOn generalizing s with
  | ind m ih =>
    rw [power_eq shrinks]
    apply (h s bound).bind
    intro a t run
    have bound' := shrinks.length_le run
    have same := head_extended_iff closed t (t := .mark .caret) (by decide)
    by_cases caret : (rest t).head? = some (.mark .caret)
    · have shorter := advanced_shorter caret
      rw [powerAfter_step _ a caret, powerAfter_step _ a (same.mpr caret), advanced_extended caret]
      apply (ih _ (by omega) _ (by omega) rfl).bind
      exact fun b u _ => extends_lift (join Operator.raise () a b) u
    · rw [powerAfter_stop _ a caret, powerAfter_stop _ a fun found => caret (same.mp found)]
      rfl

theorem extensible_factor {atom : Cursor (List Token) Value} (h : Extensible more n atom) :
    Extensible more n (factor atom) := by
  intro s bound
  induction size : (rest s).length using Nat.strongRecOn generalizing s with
  | ind m ih =>
    have same : (rest (extended more s)).head?.bind Operator.additive? =
        (rest s).head?.bind Operator.additive? := operator_extended closed rfl s
    rw [factor_eq, run_bind_ok (run_peek s), run_bind_ok (run_peek (extended more s)), same]
    cases found : (rest s).head?.bind Operator.additive? with
    | none => exact h s bound
    | some sign =>
        rcases Option.bind_eq_some_iff.mp found with ⟨token, head, -⟩
        have shorter := advanced_shorter head
        simp only [run_bind_ok (run_advance _), advanced_extended head]
        apply (ih _ (by omega) (advanced s) (by omega) rfl).bind
        exact fun b t _ => rfl

end Tiers

section Calls

variable {more : List Token} (closed : (skipSpaces more).head? = some (.mark .rightBracket))
  {n : Nat} {scope : Scope}

theorem run_whole_nil (setting : Setting) :
    (whole setting).run ([] : List Token) = .ok .tokenError [] := by
  rw [whole_eq]
  exact comparison_empty setting (shrinks_whole setting) rfl

theorem call_unclosed (scope : Scope) (name : String) {s : List Token} (empty : advanced s = []) :
    ∃ u, (call false (whole ⟨scope, false⟩) name).run s =
      .error (.unexpected .rightBracket none) u := by
  rw [call_eq, Bool.and_false, if_neg (by simp), run_bind_ok (run_advance s), empty]
  have given : ∃ args refused, (listed (whole ⟨scope, false⟩) false (Function.admits name)).run
      ([] : List Token) = .ok (.complete args refused) [] := by
    rw [listed_eq, run_bind_ok (run_atMark _ _), if_neg (by simp),
      argumentsOn_eq (shrinks_whole _), run_bind_ok (run_whole_nil _), argumentsAfter,
      Bool.and_false, if_neg (by simp), run_bind_ok (run_atMark _ _), if_neg (by simp)]
    exact ⟨_, _, rfl⟩
  rcases given with ⟨args, refused, run⟩
  rw [run_bind_ok run]
  exact ⟨[], rfl⟩

include closed

variable (inner : Extensible more n (whole ⟨scope, false⟩))

include inner

theorem extensible_argumentsOn (admitsError : Nat → Bool) (args : List Value)
    (refused : Option Value) :
    Extensible more n (argumentsOn (whole ⟨scope, false⟩) false admitsError args refused) := by
  intro s bound
  induction size : (rest s).length using Nat.strongRecOn generalizing args refused s with
  | ind m ih =>
    rw [argumentsOn_eq (shrinks_whole _)]
    apply (inner s bound).bind
    intro arg t run
    have bound' := (shrinks_whole _).length_le run
    have same := head_extended_iff closed t (t := .mark .comma) (by decide)
    simp only [argumentsAfter, Bool.and_false, Bool.false_eq_true, if_false]
    rw [run_bind_ok (run_atMark _ t), run_bind_ok (run_atMark _ (extended more t))]
    by_cases comma : (rest t).head? = some (.mark .comma)
    · have shorter := advanced_shorter comma
      simp only [comma, same.mpr comma, beq_self_eq_true, if_true]
      rw [run_bind_ok (run_advance t), run_bind_ok (run_advance _), advanced_extended comma]
      exact ih _ (by omega) _ _ _ (by omega) rfl
    · have comma' : ¬(rest (extended more t)).head? = some (.mark .comma) := fun found =>
        comma (same.mp found)
      simp only [beq_iff_eq, if_neg comma, if_neg comma']
      rfl

theorem extends_call (name : String) {s : List Token}
    (opened : (rest s).head? = some (.mark .leftBracket)) (bound : (rest (advanced s)).length ≤ n) :
    Extends more ((call false (whole ⟨scope, false⟩) name).run s)
      ((call false (whole ⟨scope, false⟩) name).run (extended more s)) := by
  by_cases empty : advanced s = []
  · rcases call_unclosed scope name empty with ⟨u, missed⟩
    rw [missed]
    exact .inl rfl
  · rcases List.exists_cons_of_ne_nil empty with ⟨t, ts, here⟩
    have listing : Extends more
        ((listed (whole ⟨scope, false⟩) false (Function.admits name)).run (advanced s))
        ((listed (whole ⟨scope, false⟩) false (Function.admits name)).run
          (extended more (advanced s))) := by
      rw [listed_eq, run_bind_ok (run_atMark _ _), run_bind_ok (run_atMark _ _)]
      have heads : (rest (extended more (advanced s))).head? = (rest (advanced s)).head? := by
        rw [rest_list, rest_list, here, extended_cons]
        rfl
      rw [heads]
      split
      · rfl
      · exact extensible_argumentsOn closed inner _ [] none (advanced s) bound
    rw [call_eq, Bool.and_false, if_neg (by simp), run_bind_ok (run_advance s),
      run_bind_ok (run_advance _), advanced_extended opened]
    apply listing.bind
    intro given u _
    cases given with
    | abandoned e => rfl
    | complete args refused =>
        apply (extends_expect .rightBracket u).bind
        exact fun _ w _ => extends_lift _ w

theorem extends_word (w : String) {s : List Token} (head : (rest s).head? = some (.word w))
    (bound : (rest (advanced s)).length ≤ n) :
    Extends more ((Rule.word ⟨scope, false⟩ (whole ⟨scope, false⟩) w).run s)
      ((Rule.word ⟨scope, false⟩ (whole ⟨scope, false⟩) w).run (extended more s)) := by
  have behind : advanced (extended more s) = extended more (advanced s) := advanced_extended head
  rw [Rule.word]
  split
  · rw [run_bind_ok (run_advance s), run_bind_ok (run_advance _), behind]
    exact extends_lift _ _
  · split
    · rw [run_bind_ok (run_advance s), run_bind_ok (run_advance _), behind]
      rfl
    · split
      · rw [identifier, run_bind_ok (run_advance s), run_bind_ok (run_advance _), behind,
          run_bind_ok (run_atMark _ _), run_bind_ok (run_atMark _ _)]
        have same := head_extended_iff closed (advanced s) (t := .mark .leftBracket) (by decide)
        by_cases opened : (rest (advanced s)).head? = some (.mark .leftBracket)
        · have shorter := advanced_shorter opened
          simp only [opened, same.mpr opened, beq_self_eq_true, if_true]
          exact extends_call closed inner w opened (by omega)
        · have opened' : ¬(rest (extended more (advanced s))).head? = some (.mark .leftBracket) :=
            fun found => opened (same.mp found)
          simp only [beq_iff_eq, if_neg opened, if_neg opened']
          exact extends_lift _ _
      · rfl

omit inner in
theorem extensible_atom (inner : ∀ m < n, Extensible more m (whole ⟨scope, false⟩)) :
    Extensible more n (atom ⟨scope, false⟩ (whole ⟨scope, false⟩)) := by
  intro s bound
  rw [atom, run_bind_ok (run_peek s), run_bind_ok (run_peek _)]
  cases head : (rest s).head? with
  | none =>
      obtain rfl : s = [] := List.head?_eq_none_iff.mp head
      rw [extended_nil, rest_list, closed]
      exact congrArg _ (extended_nil more).symm
  | some token =>
      have shorter := advanced_shorter head
      have below := inner (rest (advanced s)).length (by omega)
      rw [head_extended head]
      cases token with
      | word w => exact extends_word closed below w head (Nat.le_refl _)
      | mark m =>
          cases m
          case leftBracket =>
            dsimp only
            rw [bracket, run_bind_ok (run_advance s), run_bind_ok (run_advance _),
              advanced_extended head]
            apply (below (advanced s) (Nat.le_refl _)).bind
            intro v t _
            apply (extends_expect .rightBracket t).bind
            exact fun _ u _ => rfl
          case quote => exact extends_quotation head
          all_goals rfl

end Calls

theorem extensible_rung {more : List Token}
    (closed : (skipSpaces more).head? = some (.mark .rightBracket)) (scope : Scope) (n : Nat)
    {k : Nat} (le : k ≤ 5) : Extensible more n (rung ⟨scope, false⟩ k) := by
  apply rung_induction (motive := fun k n => Extensible more n (rung ⟨scope, false⟩ k)) _ _ _ n k le
  · intro n below
    have inner (m : Nat) (less : m < n) : Extensible more m (whole ⟨scope, false⟩) := by
      rw [← rung_zero]
      exact below m less 0 (Nat.zero_le 5)
    rw [rung_five]
    exact extensible_factor closed (extensible_atom closed inner)
  · exact fun n _ five => extensible_power closed five
  · intro n k low above s bound
    rw [rung_tier _ low, tier_eq]
    apply (above s bound).bind
    intro a t run
    have bound' := (shrinks_rung ⟨scope, false⟩ (Nat.succ_le_of_lt (by omega))).length_le run
    exact extensible_chain closed above low a t (by omega)

/-- What stands behind a closing bracket makes no difference to the run that stops there. -/
theorem extends_whole {more : List Token}
    (closed : (skipSpaces more).head? = some (.mark .rightBracket)) (scope : Scope)
    (ts : List Token) :
    Extends more ((whole ⟨scope, false⟩).run ts)
      ((whole ⟨scope, false⟩).run (extended more ts)) := by
  rw [← rung_zero]
  exact extensible_rung closed scope ts.length (Nat.zero_le 5) ts (Nat.le_refl _)

end Formulary
