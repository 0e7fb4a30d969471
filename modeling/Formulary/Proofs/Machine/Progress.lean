import Formulary.Proofs.Grammar.Operands
import Formulary.Proofs.Machine.Follows

set_option autoImplicit false

namespace Formulary

open Tape Rule Token

section Moves

variable {σ : Type} [Tape σ] {setting : Setting} {s u : σ} {v : Value}

theorem chainOn_moves {k : Nat} {a : Value}
    (run : (chainOn (rung setting (k + 1)) (Operation.on k) Operation.apply a).run s = .ok v u) :
    (rest u).length < (rest s).length ∨ v = a ∧ u = s := by
  have shrinks : Shrinks (rung setting (k + 1) : Cursor σ Value) := shrinks_tier (k + 1)
  cases found : (rest s).head?.bind (Operation.on k) with
  | none =>
      rw [chainOn_stop _ _ a found] at run
      cases run
      exact .inr ⟨rfl, rfl⟩
  | some op =>
      obtain ⟨token, head, -⟩ := Option.bind_eq_some_iff.mp found
      have shorter := advanced_shorter head
      rw [chainOn_step shrinks _ _ a found] at run
      obtain ⟨b, t, second, run⟩ := run_bind_eq_ok run
      obtain ⟨c, t', joined, onward⟩ := run_bind_eq_ok run
      obtain ⟨-, rfl⟩ := run_lift_eq_ok joined
      have bound := shrinks.length_le second
      have bound' := Shrinks.length_le (keeps_chainOn course_suffix shrinks _ _ c) onward
      exact .inl (by omega)

theorem powerAfter_moves {a : Value} (run : (powerAfter (rung setting 5) a).run s = .ok v u) :
    (rest u).length < (rest s).length ∨ v = a ∧ u = s := by
  by_cases caret : (rest s).head? = some (.mark .caret)
  · have shorter := advanced_shorter caret
    rw [powerAfter_step _ a caret, ← rung_four] at run
    obtain ⟨b, t, second, lifted⟩ := run_bind_eq_ok run
    obtain ⟨-, rfl⟩ := run_lift_eq_ok lifted
    have bound := (shrinks_tier 4).length_le second
    exact .inl (by omega)
  · rw [powerAfter_stop _ a caret] at run
    cases run
    exact .inr ⟨rfl, rfl⟩

theorem call_moves {name : String} (opened : (rest s).head? = some (.mark .leftBracket))
    (run : (Rule.call setting.legacy (whole setting) name).run s = .ok v u) :
    (rest u).length < (rest s).length ∨
      setting.legacy = true ∧ Function.builtIn.find? name = none ∧ v = .nameError := by
  cases entered : enters setting name with
  | false =>
      rw [run_unentered entered] at run
      cases run
      obtain ⟨unknown, legacy⟩ := Bool.or_eq_false_iff.mp entered
      exact .inr ⟨by simpa using legacy, by simpa using unknown, rfl⟩
  | true =>
      have shorter := advanced_shorter opened
      rw [run_entered entered] at run
      have shrinks : Shrinks (do close (Function.builtIn.find? name) (← listed (whole setting)
          setting.legacy (Function.admits name)) : Cursor σ Value) := by
        apply keeps_bind course_suffix (keeps_listed course_suffix (shrinks_whole setting) _ _)
        intro given
        cases given with
        | abandoned e => exact keeps_surface course_suffix e
        | complete args refused =>
            exact keeps_bind course_suffix (keeps_expect course_suffix _)
              fun _ => keeps_lift course_suffix _
      have bound := shrinks.length_le run
      exact .inl (by omega)

theorem string_moves (head : (rest s).head? = some (.mark .quote))
    (run : (quotation : Cursor σ Value).run s = .ok v u) :
    (rest u).length < (rest s).length := by
  obtain ⟨ts, here⟩ := List.head?_eq_some_iff.mp head
  rw [run_quotation] at run
  obtain ⟨_, t, expected, run⟩ := run_bind_eq_ok run
  cases run
  obtain ⟨closed, rfl⟩ := run_expect_eq_ok expected
  have shorter := advanced_shorter closed
  have bound := (List.dropWhile_suffix (l := ts) (· != .mark .quote)).length_le
  rw [rest_closing, here, List.tail_cons] at shorter
  rw [here, List.length_cons]
  omega

theorem called_bound {name : String} (called : Called setting (whole setting) name s v u) :
    (rest u).length ≤ (rest s).length := by
  have bound := (skipSpaces_tail_suffix (rest s)).length_le
  have shrinks : Shrinks (listed (whole setting) setting.legacy (Function.admits name) :
      Cursor σ Arguments) := keeps_listed course_suffix (shrinks_whole setting) _ _
  cases called with
  | unknown => rw [rest_cut]
  | abandoned run =>
      have bound' := shrinks.length_le run
      rw [rest_advanced] at bound'
      rw [rest_cut]
      omega
  | complete run closed =>
      have bound' := shrinks.length_le run
      have shorter := advanced_shorter closed
      rw [rest_advanced] at bound'
      omega

def Moves (σ : Type) [Tape σ] (setting : Setting) (k : Nat) : Prop :=
  ∀ (s u : σ) (v : Value), (rung setting k).run s = .ok v u →
    (rest u).length < (rest s).length ∨
      (v = .tokenError ∧ ∀ t, (rest s).head? = some t → t.startsOperand = false) ∧ u = s

theorem moves_operand : Moves σ setting 5 := by
  intro s u v run
  rw [rung_five] at run
  cases operand_of_run run with
  | missing idle => exact .inr ⟨⟨rfl, idle⟩, rfl⟩
  | number head => exact .inl (advanced_shorter head)
  | keyword head => exact .inl (advanced_shorter head)
  | name head => exact .inl (advanced_shorter head)
  | text unquoted here =>
      exact .inl (string_moves (by rw [here]; rfl) (run_quotation_closed unquoted here).1)
  | sign head inner =>
      have shorter := advanced_shorter head
      rw [← rung_five] at inner
      have bound := (shrinks_tier 5).length_le inner
      exact .inl (by omega)
  | bracket opened inner closed =>
      have shorter := advanced_shorter opened
      have bound := (shrinks_whole setting).length_le inner
      have shorter' := advanced_shorter closed
      exact .inl (by omega)
  | call head named opened called =>
      have shorter := advanced_shorter head
      have bound := called_bound called
      exact .inl (by omega)

theorem moves_behind {k j : Nat} {after : Value → Cursor σ Value} (first : Moves σ setting j)
    (split : (rung setting k : Cursor σ Value) = rung setting j >>= after)
    (onward : ∀ {a v : Value} {t u : σ}, (after a).run t = .ok v u →
      (rest u).length < (rest t).length ∨ v = a ∧ u = t) : Moves σ setting k := by
  intro s u v run
  rw [split] at run
  obtain ⟨a, t, operand, run⟩ := run_bind_eq_ok run
  obtain shorter | ⟨rfl, rfl⟩ := onward run
  · have bound := (shrinks_tier j).length_le operand
    exact .inl (by omega)
  · exact first s u v operand

theorem moves_rung {k : Nat} (le : k ≤ 5) : Moves σ setting k := by
  apply rungs_from_five (motive := fun k => Moves σ setting k) moves_operand _ _ le
  · intro five
    exact moves_behind five (by rw [rung_four, power_eq (shrinks_tier 5)]) powerAfter_moves
  · intro k low above
    exact moves_behind above (by rw [rung_tier setting low, tier_eq]) chainOn_moves

theorem moves_started {t : Token} (head : (rest s).head? = some t) (starts : t.startsOperand = true)
    (run : (rung setting 5).run s = .ok v u) : (rest u).length < (rest s).length := by
  apply (moves_rung (Nat.le_refl 5) s u v run).resolve_right
  rintro ⟨⟨-, idle⟩, -⟩
  rw [idle t head] at starts
  cases starts

end Moves

namespace Cursor

variable {σ α : Type}

def ending (outcome : Except Fault α) (s : σ) : EStateM.Result Fault σ α :=
  match outcome with
  | .ok a => .ok a s
  | .error f => .error f s

theorem exists_ending (r : EStateM.Result Fault σ α) :
    ∃ (outcome : Except Fault α) (s : σ), r = ending outcome s := by
  cases r with
  | ok a s => exact ⟨.ok a, s, rfl⟩
  | error f s => exact ⟨.error f, s, rfl⟩

end Cursor

inductive Entry where
  -- Comparison, concatenation, sum, product, power and factor, by the number of the tier.
  | tier (k : Nat)
  | unary (o : Operator.Additive)
  | bracket
  | string
  | identifier (name : String)
  | call (name : String)

namespace Entry

variable {setting : Setting}

def Starts : Entry → List Token → Prop
  | .tier k, _ => k ≤ 5
  | .unary o, ts => ts.head? = some (.mark o.mark)
  | .bracket, ts | .call _, ts => ts.head? = some (.mark .leftBracket)
  | .string, ts => ts.head? = some (.mark .quote)
  | .identifier name, ts => ts.head? = some (.word name) ∧ isName name = true

def rule (setting : Setting) : Entry → Cursor (List Token) Value
  | .tier k => rung setting k
  | .unary _ => rung setting 5
  | .bracket => Rule.bracket (whole setting)
  | .string => quotation
  | .identifier name => Rule.identifier setting (whole setting) name
  | .call name => Rule.call setting.legacy (whole setting) name

def task : Entry → Task
  | .tier k => .tier k
  | .unary o => .unary o
  | .bracket => .bracket
  | .string => .string
  | .identifier name => .identifier name
  | .call name => .call name

/-- How a rule may end without reading a token. -/
def Idle (setting : Setting) (ts : List Token) (v : Value) : Entry → Prop
  | .tier _ => v = .tokenError ∧ ∀ t, ts.head? = some t → t.startsOperand = false
  | .call name =>
      setting.legacy = true ∧ Function.builtIn.find? name = none ∧ v = .nameError
  | .unary _ | .bracket | .string | .identifier _ => False

theorem signed_of_head {o : Operator.Additive} {ts : List Token}
    (head : ts.head? = some (.mark o.mark)) : ts.head?.bind Operator.additive? = some o := by
  rw [head]
  cases o <;> rfl

theorem follows_rule {entry : Entry} {ts : List Token} (starts : entry.Starts ts) :
    Machine.Follows setting [] ⟨entry.task, [], ts, false⟩ ((entry.rule setting).run ts) := by
  have simulated {k : Nat} (le : k ≤ 5) (n : Nat) : Machine.Simulated setting k n :=
    Machine.simulated_rung n le
  cases entry with
  | tier k => exact simulated starts _ _ _ (Nat.le_refl _)
  | unary o =>
      exact Machine.follows_unary (simulated (Nat.le_refl 5) _) (Nat.le_refl _)
        (signed_of_head starts)
  | bracket => exact Machine.follows_bracket (simulated (by decide) _) starts (Nat.le_refl _)
  | string => exact Machine.follows_string starts
  | identifier name =>
      exact Machine.follows_identifier (simulated (by decide) _) name (Nat.le_refl _)
  | call name => exact Machine.follows_call (simulated (by decide) _) name starts (Nat.le_refl _)

theorem shrinks_rule (entry : Entry) : Shrinks (entry.rule setting) := by
  have inner : Shrinks (whole setting : Cursor (List Token) Value) := shrinks_whole setting
  cases entry with
  | tier k => exact shrinks_tier k
  | unary o => exact shrinks_tier 5
  | bracket => exact keeps_bracket course_suffix inner
  | string => exact keeps_quotation course_suffix
  | identifier name => exact keeps_identifier course_suffix inner setting name
  | call name => exact keeps_call course_suffix inner setting.legacy name

theorem moves_rule {entry : Entry} {ts us : List Token} {v : Value} (starts : entry.Starts ts)
    (run : (entry.rule setting).run ts = .ok v us) :
    us.length < ts.length ∨ entry.Idle setting ts v := by
  cases entry with
  | tier k => exact (moves_rung starts ts us v run).imp id And.left
  | unary o => exact .inl (moves_started (s := ts) starts (by cases o <;> rfl) run)
  | bracket =>
      have opened : (rest ts).head? = some (.mark .leftBracket) := starts
      exact .inl (moves_started (s := ts) opened rfl ((run_opened opened).trans run))
  | string => exact .inl (string_moves (s := ts) starts run)
  | identifier name =>
      obtain ⟨head, named⟩ := starts
      have operand : (rung setting 5).run ts = .ok v us := by
        rw [run_rung_word head, word_name named]
        exact run
      have named' : (Token.word name).startsOperand = true := by
        simp only [isName, Bool.and_eq_true] at named
        simp [startsOperand, named]
      exact .inl (moves_started (s := ts) head named' operand)
  | call name => exact call_moves (s := ts) starts run

end Entry

/-- Every rule ends wherever it is started, and it stops at or behind its start, within the tokens.
It stops at its start only where it has found no operand, or where legacy mode leaves a call of no
known function unread. -/
theorem rules_end (setting : Setting) (ts : List Token) {p : Nat} (within : p ≤ ts.length)
    (entry : Entry) (starts : entry.Starts (ts.drop p)) :
    ∃ outcome q, p ≤ q ∧ q ≤ ts.length ∧
      StateTransition.eval (Machine.step setting) ⟨entry.task, [], ts.drop p, false⟩ =
        Part.some ⟨.ended outcome, [], ts.drop q, false⟩ ∧
      (entry.rule setting).run (ts.drop p) = Cursor.ending outcome (ts.drop q) ∧
      ∀ v, outcome = .ok v → q = p → entry.Idle setting (ts.drop p) v := by
  have comes : Machine.Follows setting [] _ ((entry.rule setting).run (ts.drop p)) :=
    entry.follows_rule starts
  obtain ⟨outcome, us, run⟩ := Cursor.exists_ending ((entry.rule setting).run (ts.drop p))
  have suffix : us <:+ ts.drop p := by
    have shrinks : Shrinks (entry.rule setting) := entry.shrinks_rule
    have kept := shrinks (ts.drop p)
    rw [run] at kept
    cases outcome <;> exact kept
  have here : us = ts.drop (ts.length - us.length) :=
    List.suffix_iff_eq_drop.mp (suffix.trans (List.drop_suffix p ts))
  have bound := suffix.length_le
  rw [List.length_drop] at bound
  refine ⟨outcome, ts.length - us.length, by omega, by omega, ?_, by rw [← here, run], ?_⟩
  · rw [← here]
    rw [run] at comes
    apply Part.eq_some_iff.mpr (StateTransition.mem_eval.mpr ⟨?_, ?_⟩)
    · cases outcome <;> exact comes
    · cases outcome <;> rfl
  · rintro v rfl stays
    obtain shorter | idle := entry.moves_rule starts run
    · rw [List.length_drop] at shorter
      omega
    · exact idle

theorem rules_end_unread :
    (Entry.call "NOPE").Starts ((tokens "NOPE(1)").drop 1) ∧
      StateTransition.eval (Machine.step ⟨[], true⟩)
          ⟨.call "NOPE", [], (tokens "NOPE(1)").drop 1, false⟩ =
        Part.some ⟨.ended (.ok .nameError), [], (tokens "NOPE(1)").drop 1, false⟩ := by
  have starts : (Entry.call "NOPE").Starts ((tokens "NOPE(1)").drop 1) := by rfl
  refine ⟨starts, ?_⟩
  obtain ⟨outcome, q, -, -, halts, run, -⟩ :=
    rules_end ⟨[], true⟩ (tokens "NOPE(1)") (p := 1) (by decide) (.call "NOPE") starts
  have stays : ((Entry.call "NOPE").rule ⟨[], true⟩).run ((tokens "NOPE(1)").drop 1) =
      .ok .nameError ((tokens "NOPE(1)").drop 1) := by rfl
  rw [stays] at run
  cases outcome with
  | error f => cases run
  | ok v =>
      obtain ⟨value, left⟩ := EStateM.Result.ok.inj run
      rw [← value, ← left] at halts
      exact halts

end Formulary
