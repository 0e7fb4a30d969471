import Formulary.Proofs.Grammar.Accepted
import Formulary.Proofs.Tokens.Brackets

set_option autoImplicit false

namespace Formulary

open Tape Rule Token

/-- The tokens that are left, and whether a legacy call was left unread. -/
structure Record where
  tokens : List Token
  cut : Bool

instance : Tape Record where
  rest r := r.tokens
  move f r := { r with tokens := f r.tokens }
  cut r := { r with cut := true }
  rest_move _ _ := rfl
  rest_cut _ := rfl

namespace Record

@[simp] theorem rest_eq (r : Record) : rest r = r.tokens := rfl

theorem tokens_of_head {r : Record} {t : Token} (head : r.tokens.head? = some t) :
    ∃ ts, r.tokens = t :: ts ∧ (advanced r).tokens = skipSpaces ts := by
  obtain ⟨ts, here⟩ := List.head?_eq_some_iff.mp head
  refine ⟨ts, here, ?_⟩
  rw [← rest_eq, rest_advanced, rest_eq, here, List.tail_cons]

end Record

/-- What a run has read keeps every bracket that it closes. If a call was left unread on the way, an
opening bracket has not been closed, or one stands where the run does. -/
def Strays (s u : Record) : Prop :=
  ∃ k, (∀ depth, closes false depth s.tokens = closes false (depth + k) u.tokens) ∧
    (u.cut = s.cut ∨ 1 ≤ k ∨ u.tokens.head? = some (.mark .leftBracket))

theorem Strays.refl (s : Record) : Strays s s := ⟨0, fun _ => rfl, .inl rfl⟩

theorem Strays.trans {s t u : Record} (first : Strays s t) (second : Strays t u)
    (stuck : t.tokens.head? = some (.mark .leftBracket) → u = t) : Strays s u := by
  obtain ⟨k, before, flag⟩ := first
  obtain ⟨l, after, flag'⟩ := second
  refine ⟨k + l, fun depth => ?_, ?_⟩
  · rw [before, after, Nat.add_assoc]
  · by_cases stands : t.tokens.head? = some (.mark .leftBracket)
    · exact .inr (.inr (stuck stands ▸ stands))
    · obtain same | more | stands' := flag'
      · obtain same' | more | stands' := flag
        · exact .inl (same.trans same')
        · exact .inr (.inl (Nat.le_add_right_of_le more))
        · exact absurd stands' stands
      · exact .inr (.inl (Nat.le_add_left_of_le more))
      · exact .inr (.inr stands')

theorem strays_neutral {s u : Record} {t : Token} (head : s.tokens.head? = some t)
    (neutral : Neutral t) (onward : Strays (advanced s) u) : Strays s u := by
  obtain ⟨ts, here, behind⟩ := Record.tokens_of_head head
  obtain ⟨k, counts, flag⟩ := onward
  refine ⟨k, fun depth => ?_, flag⟩
  rw [here, closes_neutral neutral, ← closes_skipSpaces, ← behind, counts]

theorem strays_brackets {s t : Record} (opens : s.tokens.head? = some (.mark .leftBracket))
    (inside : Strays (advanced s) t) (closed : t.tokens.head? = some (.mark .rightBracket)) :
    Strays s (advanced t) := by
  obtain ⟨ts, here, behind⟩ := Record.tokens_of_head opens
  obtain ⟨us, there, behind'⟩ := Record.tokens_of_head closed
  obtain ⟨k, counts, flag⟩ := inside
  refine ⟨k, fun depth => ?_, ?_⟩
  · have inner := counts (depth + 1)
    rw [behind, closes_skipSpaces, there, Nat.add_right_comm, closes_right] at inner
    rw [here, closes_left, inner, behind', closes_skipSpaces]
  · obtain same | more | stands := flag
    · exact .inl same
    · exact .inr (.inl more)
    · rw [closed] at stands
      cases stands

-- A call that is left unread keeps its own bracket open.
theorem strays_unread {s t : Record} (opens : s.tokens.head? = some (.mark .leftBracket))
    (inside : Strays (advanced s) t) : Strays s (Tape.cut t) := by
  obtain ⟨ts, here, behind⟩ := Record.tokens_of_head opens
  obtain ⟨k, counts, -⟩ := inside
  refine ⟨k + 1, fun depth => ?_, .inr (.inl (Nat.le_add_left 1 k))⟩
  have inner := counts (depth + 1)
  rw [behind, closes_skipSpaces, Nat.add_right_comm] at inner
  rw [here, closes_left, inner]
  rfl

variable {setting : Setting}

def Wanders (setting : Setting) (k n : Nat) : Prop :=
  ∀ (s u : Record) (v : Value), s.tokens.length ≤ n → (rung setting k).run s = .ok v u → Strays s u

section Tiers

variable {n : Nat}

theorem strays_chain {k : Nat} (low : k < 4) (operand : Wanders setting (k + 1) n) {s u : Record}
    {v : Value} (run : (rung setting k).run s = .ok v u) (bound : s.tokens.length ≤ n) :
    Strays s u := by
  have shrinks : Shrinks (rung setting (k + 1) : Cursor Record Value) :=
    shrinks_rung setting (by omega)
  rw [rung_tier setting low, tier_eq] at run
  obtain ⟨a, t, first, run⟩ := run_bind_eq_ok run
  have bound' := shrinks.length_le first
  simp only [Record.rest_eq] at bound'
  have start : Strays s t ∧ t.tokens.length ≤ n := ⟨operand _ _ _ bound first, by omega⟩
  refine (chainOn_invariant shrinks _ _ (motive := fun _ u => Strays s u ∧ u.tokens.length ≤ n)
    ?_ start run).1
  rintro op a t b w c found ⟨before, bound⟩ second -
  obtain ⟨token, head, known⟩ := Option.bind_eq_some_iff.mp found
  obtain ⟨rfl, rfl⟩ := Operation.on_eq_some.mp known
  have shorter := advanced_shorter head
  have bound' := shrinks.length_le second
  simp only [Record.rest_eq] at head shorter bound'
  have onward := operand _ _ _ (by omega) second
  refine ⟨.trans before (strays_neutral head op.neutral onward) fun stands => ?_, by omega⟩
  rw [head] at stands
  exact absurd (Token.mark.inj (Option.some.inj stands)) (op.mark_ne rfl)

theorem strays_power (operand : Wanders setting 5 n) (below : ∀ m < n, Wanders setting 4 m)
    {s u : Record} {v : Value} (run : (rung setting 4).run s = .ok v u)
    (bound : s.tokens.length ≤ n) : Strays s u := by
  have shrinks : Shrinks (rung setting 5 : Cursor Record Value) := shrinks_rung setting (by decide)
  rw [rung_four, power_eq shrinks] at run
  obtain ⟨a, t, first, run⟩ := run_bind_eq_ok run
  have base := operand _ _ _ bound first
  have bound' := shrinks.length_le first
  by_cases caret : (rest t).head? = some (.mark .caret)
  · have shorter := advanced_shorter caret
    simp only [Record.rest_eq] at bound' shorter caret
    rw [powerAfter_step _ _ caret, ← rung_four] at run
    obtain ⟨b, w, second, lifted⟩ := run_bind_eq_ok run
    obtain ⟨-, rfl⟩ := run_lift_eq_ok lifted
    have exponent := below (advanced t).tokens.length (by omega) _ _ _ (Nat.le_refl _) second
    refine .trans base (strays_neutral caret (by simp [Neutral]) exponent) fun stands => ?_
    rw [caret] at stands
    cases stands
  · rw [powerAfter_stop _ _ caret] at run
    cases run
    exact base

end Tiers

section Arguments

variable {n : Nat} (inner : Wanders setting 0 n)

include inner in
theorem strays_argumentsOn (legacy : Bool) (admitsError : Nat → Bool) (args : List Value)
    (refused : Option Value) {s u : Record} {given : Arguments}
    (run : (argumentsOn (whole setting) legacy admitsError args refused).run s = .ok given u)
    (bound : s.tokens.length ≤ n) : Strays s u := by
  induction hm : s.tokens.length using Nat.strongRecOn generalizing args refused s with
  | ind m ih =>
    rw [argumentsOn_eq (shrinks_whole setting)] at run
    obtain ⟨v, t, first, run⟩ := run_bind_eq_ok run
    have bound' := (shrinks_whole setting).length_le first
    rw [← rung_zero] at first
    have argument := inner _ _ _ bound first
    rw [argumentsAfter] at run
    split at run
    · cases run
      exact argument
    · rw [run_bind_ok (run_atMark _ t)] at run
      by_cases comma : (rest t).head? = some (.mark .comma)
      · have shorter := advanced_shorter comma
        rw [if_pos (by simpa using comma), run_bind_ok (run_advance t)] at run
        simp only [Record.rest_eq] at bound' shorter comma
        have others := ih _ (by omega) (args ++ [v]) _ run (by omega) rfl
        refine .trans argument (strays_neutral comma (by simp [Neutral]) others) fun stands => ?_
        rw [comma] at stands
        cases stands
      · rw [if_neg (by simpa using comma)] at run
        cases run
        exact argument

include inner in
theorem strays_listed (legacy : Bool) (admitsError : Nat → Bool) {s u : Record}
    {given : Arguments} (run : (listed (whole setting) legacy admitsError).run s = .ok given u)
    (bound : s.tokens.length ≤ n) : Strays s u := by
  rw [listed_eq, run_bind_ok (run_atMark _ _)] at run
  split at run
  · cases run
    exact .refl _
  · exact strays_argumentsOn inner legacy admitsError _ _ run bound

include inner in
theorem strays_called {name : String} {s u : Record} {v : Value}
    (called : Called setting (whole setting) name s v u)
    (opened : s.tokens.head? = some (.mark .leftBracket)) (bound : s.tokens.length ≤ n + 1) :
    Strays s u := by
  have shorter := advanced_shorter (s := s) opened
  simp only [Record.rest_eq] at shorter
  cases called with
  | unknown => exact ⟨0, fun _ => rfl, .inr (.inr opened)⟩
  | abandoned run => exact strays_unread opened (strays_listed inner _ _ run (by omega))
  | complete run closed =>
      exact strays_brackets opened (strays_listed inner _ _ run (by omega)) closed

end Arguments

theorem strays_operand {n : Nat} (below : ∀ m < n, ∀ k ≤ 5, Wanders setting k m)
    {s u : Record} {v : Value} (operand : Operand setting (whole setting) s v u)
    (bound : s.tokens.length ≤ n) : Strays s u := by
  have inside {t : Token} (head : s.tokens.head? = some t) (k : Nat) (le : k ≤ 5) :
      Wanders setting k (advanced s).tokens.length :=
    below _ (Nat.lt_of_lt_of_le (advanced_shorter (s := s) head) bound) k le
  cases operand with
  | missing => exact .refl _
  | number head => exact strays_neutral head (neutral_word _) (.refl _)
  | keyword head => exact strays_neutral head (neutral_word _) (.refl _)
  | name head => exact strays_neutral head (neutral_word _) (.refl _)
  | text unquoted here =>
      have behind := (run_quotation_closed unquoted here).2
      rw [Record.rest_eq] at here behind
      refine ⟨0, fun depth => ?_, .inl rfl⟩
      rw [here, closes_quotation unquoted, behind, closes_skipSpaces, Nat.add_zero]
  | @sign o _ _ head run =>
      rw [← rung_five] at run
      exact strays_neutral head o.neutral
        (inside head 5 (Nat.le_refl 5) _ _ _ (Nat.le_refl _) run)
  | bracket opened run closed =>
      rw [← rung_zero] at run
      exact strays_brackets opened
        (inside opened 0 (Nat.zero_le 5) _ _ _ (Nat.le_refl _) run) closed
  | call head _ opened called =>
      exact strays_neutral head (neutral_word _)
        (strays_called (inside head 0 (Nat.zero_le 5)) called opened (Nat.le_succ _))

theorem wanders_rung (n k : Nat) (le : k ≤ 5) : Wanders setting k n := by
  apply rung_induction (motive := Wanders setting) _ _ _ n k le
  · intro n below s u v bound run
    rw [rung_five] at run
    exact strays_operand below (operand_of_run run) bound
  · exact fun n below five s u v bound run => strays_power five below run bound
  · exact fun n k low above s u v bound run => strays_chain low above run bound

theorem strays_whole {s u : Record} {v : Value} (run : (whole setting).run s = .ok v u) :
    Strays s u := by
  rw [← rung_zero] at run
  exact wanders_rung s.tokens.length 0 (Nat.zero_le 5) s u v (Nat.le_refl _) run

end Formulary
