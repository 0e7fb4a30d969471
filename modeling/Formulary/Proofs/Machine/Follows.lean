import Mathlib.Computability.StateTransition
import Formulary.Proofs.Fault.Reach

set_option autoImplicit false

namespace Formulary

open Tape Rule Token

/-- What waits for the value that is being read. -/
inductive Frame where
  | first (k : Nat)
  | second (k : Nat) (op : Operation) (a : Value)
  | base
  | exponent (a : Value)
  | sign (o : Operator.Additive)
  | bracket
  | argument (name : String) (args : List Value) (refused : Option Value)

inductive Task where
  | tier (k : Nat)
  | chain (k : Nat) (a : Value)
  | unary (o : Operator.Additive)
  | bracket
  | string
  -- Behind the opening quote and some content.
  | scan (content : List Token)
  | identifier (name : String)
  | named (name : String)
  | call (name : String)
  | listed (name : String)
  | close (name : String) (args : List Value) (refused : Option Value)
  | answer (name : String) (args : List Value) (refused : Option Value)
  | ended (outcome : Except Fault Value)

structure Machine where
  task : Task
  frames : List Frame
  tokens : List Token
  -- Whether the spaces that come first are passed over before the task goes on.
  skips : Bool

namespace Machine

def past (task : Task) (frames : List Frame) (ts : List Token) : Machine :=
  ⟨task, frames, ts.tail, true⟩

def demand (m : Separator) (task : Task) (frames : List Frame) (ts : List Token) : Machine :=
  if ts.head? = some (.mark m) then past task frames ts
  else ⟨.ended (.error (.unexpected m ts.head?)), frames, ts, false⟩

def word (w : String) (frames : List Frame) (ts : List Token) : Machine :=
  if startsNumber w then
    past (.ended (numeral w)) frames ts
  else
    match boolean? w with
    | some b => past (.ended (.ok (.boolean b))) frames ts
    | none =>
        if hasNameStart w then ⟨.identifier w, frames, ts, false⟩
        else ⟨.ended (.ok .tokenError), frames, ts, false⟩

def operand (frames : List Frame) (ts : List Token) : Machine :=
  match ts.head?.bind Operator.additive? with
  | some o => ⟨.unary o, frames, ts, false⟩
  | none =>
      match ts.head? with
      | some (.mark .leftBracket) => ⟨.bracket, frames, ts, false⟩
      | some (.mark .quote) => ⟨.string, frames, ts, false⟩
      | some (.word w) => word w frames ts
      | _ => ⟨.ended (.ok .tokenError), frames, ts, false⟩

def resume (setting : Setting) (v : Value) (frame : Frame) (frames : List Frame)
    (ts : List Token) : Machine :=
  match frame with
  | .first k => ⟨.chain k v, frames, ts, false⟩
  | .second k op a =>
      match join Operation.apply op a v with
      | .ok c => ⟨.chain k c, frames, ts, false⟩
      | .error f => ⟨.ended (.error f), frames, ts, false⟩
  | .base =>
      if ts.head? = some (.mark .caret) then past (.tier 4) (.exponent v :: frames) ts
      else ⟨.ended (.ok v), frames, ts, false⟩
  | .exponent a => ⟨.ended (join Operator.raise () a v), frames, ts, false⟩
  | .sign o => ⟨.ended (.ok (Operator.signed o v)), frames, ts, false⟩
  | .bracket => demand .rightBracket (.ended (.ok v)) frames ts
  | .argument name args refused =>
      if leaves setting name args refused v then ⟨.ended (.ok v), frames, ts, false⟩
      else
        let refused := refusedAfter (Function.admits name) args refused v
        if ts.head? = some (.mark .comma) then
          past (.tier 0) (.argument name (args ++ [v]) refused :: frames) ts
        else ⟨.close name (args ++ [v]) refused, frames, ts, false⟩

def act (setting : Setting) : Task → List Frame → List Token → Option Machine
  | .tier k, frames, ts =>
      if k < 4 then some ⟨.tier (k + 1), .first k :: frames, ts, false⟩
      else if k = 4 then some ⟨.tier 5, .base :: frames, ts, false⟩
      else some (operand frames ts)
  | .chain k a, frames, ts =>
      match ts.head?.bind (Operation.on k) with
      | some op => some (past (.tier (k + 1)) (.second k op a :: frames) ts)
      | none => some ⟨.ended (.ok a), frames, ts, false⟩
  | .unary o, frames, ts => some (past (.tier 5) (.sign o :: frames) ts)
  | .bracket, frames, ts => some (demand .leftBracket (.tier 0) (.bracket :: frames) ts)
  | .string, frames, ts => some ⟨.scan [], frames, ts.tail, false⟩
  | .scan _, frames, [] => some ⟨.ended (.error (.unexpected .quote none)), frames, [], false⟩
  | .scan content, frames, t :: ts =>
      if t = .mark .quote then
        some (past (.ended (.ok (.string (String.join (content.map text))))) frames (t :: ts))
      else some ⟨.scan (content ++ [t]), frames, ts, false⟩
  | .identifier name, frames, ts => some (past (.named name) frames ts)
  | .named name, frames, ts =>
      if ts.head? = some (.mark .leftBracket) then some ⟨.call name, frames, ts, false⟩
      else some ⟨.ended (setting.scope.read name), frames, ts, false⟩
  | .call name, frames, ts =>
      if enters setting name then some (demand .leftBracket (.listed name) frames ts)
      else some ⟨.ended (.ok .nameError), frames, ts, false⟩
  | .listed name, frames, ts =>
      if ts.head? = some (.mark .rightBracket) then some ⟨.close name [] none, frames, ts, false⟩
      else some ⟨.tier 0, .argument name [] none :: frames, ts, false⟩
  | .close name args refused, frames, ts =>
      some (demand .rightBracket (.answer name args refused) frames ts)
  | .answer name args refused, frames, ts =>
      some ⟨.ended (answer (Function.builtIn.find? name) args refused), frames, ts, false⟩
  | .ended (.ok v), frame :: frames, ts => some (resume setting v frame frames ts)
  -- Nothing on the way back holds a fault up.
  | .ended (.error f), _ :: frames, ts => some ⟨.ended (.error f), frames, ts, false⟩
  | .ended _, [], _ => none

def step (setting : Setting) (m : Machine) : Option Machine :=
  if m.skips then
    match m.tokens with
    | .mark .space :: ts => some { m with tokens := ts }
    | _ => some { m with skips := false }
  else act setting m.task m.frames m.tokens

abbrev Comes (setting : Setting) : Machine → Machine → Prop :=
  StateTransition.Reaches (step setting)

variable {setting : Setting} {frames : List Frame} {ts : List Token}

theorem Comes.act {task : Task} {m : Machine} (acts : act setting task frames ts = some m) :
    Comes setting ⟨task, frames, ts, false⟩ m := .single acts

theorem comes_past (task : Task) (frames : List Frame) (ts : List Token) :
    Comes setting (past task frames ts) ⟨task, frames, advanced ts, false⟩ := by
  have skipped (us : List Token) :
      Comes setting ⟨task, frames, us, true⟩ ⟨task, frames, skipSpaces us, false⟩ := by
    induction us with
    | nil => exact .single rfl
    | cons t us ih =>
        by_cases space : t = .mark .space
        · subst space
          exact .head (show _ = _ from rfl) ih
        · have stays : skipSpaces (t :: us) = t :: us := by simp [skipSpaces, space]
          rw [stays]
          apply Relation.ReflTransGen.single
          cases t with
          | word w => rfl
          | mark m =>
              cases m
              case space => exact absurd rfl space
              all_goals rfl
  exact skipped ts.tail

/-- The machine comes to what a run comes to, with the frames that it has there. -/
def Follows (setting : Setting) (frames : List Frame) (m : Machine) :
    EStateM.Result Fault (List Token) Value → Prop
  | .ok v us => Comes setting m ⟨.ended (.ok v), frames, us, false⟩
  | .error f us => Comes setting m ⟨.ended (.error f), frames, us, false⟩

section Follows

variable {r : EStateM.Result Fault (List Token) Value} {m m' : Machine}

theorem Follows.after (comes : Comes setting m m') (follows : Follows setting frames m' r) :
    Follows setting frames m r := by
  cases r <;> exact comes.trans follows

theorem Follows.act {task : Task} {frames' : List Frame}
    (acts : act setting task frames' ts = some m) (follows : Follows setting frames m r) :
    Follows setting frames ⟨task, frames', ts, false⟩ r :=
  follows.after (.act acts)

theorem Follows.past {task : Task} {frames' : List Frame}
    (follows : Follows setting frames ⟨task, frames', advanced ts, false⟩ r) :
    Follows setting frames (past task frames' ts) r :=
  follows.after (comes_past task frames' ts)

theorem Follows.bind {frame : Frame} {first : Cursor (List Token) Value}
    {next : Value → Cursor (List Token) Value}
    (follows : Follows setting (frame :: frames) m (first.run ts))
    (onward : ∀ v us, first.run ts = .ok v us →
      Follows setting frames (resume setting v frame frames us) ((next v).run us)) :
    Follows setting frames m ((first >>= next).run ts) := by
  cases run : first.run ts with
  | ok v us =>
      rw [run] at follows
      rw [run_bind_ok run]
      exact (onward v us run).after (follows.tail rfl)
  | error f us =>
      rw [run] at follows
      rw [run_bind_error run]
      exact follows.tail rfl

theorem follows_lift (e : Except Fault Value) (ts : List Token) :
    Follows setting frames ⟨.ended e, frames, ts, false⟩
      ((lift e : Cursor (List Token) Value).run ts) := by
  cases e <;> exact .refl

theorem follows_demand {m : Separator} {task : Task} {next : Cursor (List Token) Value}
    (onward : ts.head? = some (.mark m) →
      Follows setting frames ⟨task, frames, advanced ts, false⟩ (next.run (advanced ts))) :
    Follows setting frames (demand m task frames ts) ((do expect m; next).run ts) := by
  have expected := run_expect m ts
  unfold demand
  by_cases head : ts.head? = some (.mark m)
  · rw [rest_list, if_pos head] at expected
    rw [if_pos head, run_bind_ok expected]
    exact (onward head).past
  · rw [rest_list, if_neg head] at expected
    rw [if_neg head, run_bind_error expected]
    exact .refl

end Follows

def Simulated (setting : Setting) (k n : Nat) : Prop :=
  ∀ (frames : List Frame) (ts : List Token), ts.length ≤ n →
    Follows setting frames ⟨.tier k, frames, ts, false⟩ ((rung setting k).run ts)

section Tiers

variable {n : Nat}

theorem follows_chain {k : Nat} (operand : Simulated setting (k + 1) n) (a : Value)
    (bound : ts.length ≤ n) :
    Follows setting frames ⟨.chain k a, frames, ts, false⟩
      ((chainOn (rung setting (k + 1)) (Operation.on k) Operation.apply a).run ts) := by
  have shrinks : Shrinks (rung setting (k + 1) : Cursor (List Token) Value) := shrinks_tier (k + 1)
  induction size : ts.length using Nat.strongRecOn generalizing a ts with
  | ind m ih =>
    cases found : ts.head?.bind (Operation.on k) with
    | none =>
        rw [chainOn_stop _ _ a found]
        exact Follows.act (by simp [act, found]) .refl
    | some op =>
        obtain ⟨token, head, -⟩ := Option.bind_eq_some_iff.mp found
        have shorter := advanced_shorter (s := ts) head
        rw [chainOn_step shrinks _ _ a found]
        apply Follows.act (m := past (.tier (k + 1)) (.second k op a :: frames) ts)
        · simp [act, found]
        apply Follows.past
        apply (operand _ _ (by simp only [rest_list] at shorter; omega)).bind
        intro b us run
        have bound' := shrinks.length_le run
        simp only [rest_list] at shorter bound'
        cases joined : join Operation.apply op a b with
        | error f =>
            rw [run_bind_error (run_lift_error rfl us)]
            simp only [resume, joined]
            exact .refl
        | ok c =>
            simp only [resume, joined]
            exact ih us.length (by omega) c (by omega) rfl

theorem simulated_chain {k : Nat} (low : k < 4) (operand : Simulated setting (k + 1) n) :
    Simulated setting k n := by
  intro frames ts bound
  rw [rung_tier setting low, tier_eq]
  apply Follows.act (m := ⟨.tier (k + 1), .first k :: frames, ts, false⟩)
  · simp [act, low]
  apply (operand _ _ bound).bind
  intro a us run
  have bound' := (shrinks_tier (k + 1)).length_le run
  exact follows_chain operand a (Nat.le_trans bound' bound)

theorem simulated_power (operand : Simulated setting 5 n)
    (below : ∀ m < n, Simulated setting 4 m) : Simulated setting 4 n := by
  intro frames ts bound
  have shrinks : Shrinks (rung setting 5 : Cursor (List Token) Value) := shrinks_tier 5
  rw [rung_four, power_eq shrinks]
  apply Follows.act (m := ⟨.tier 5, .base :: frames, ts, false⟩) rfl
  apply (operand _ _ bound).bind
  intro a us run
  have bound' := shrinks.length_le run
  by_cases caret : us.head? = some (.mark .caret)
  · have shorter := advanced_shorter (s := us) caret
    simp only [rest_list] at shorter bound'
    rw [powerAfter_step _ a caret, ← rung_four, resume, if_pos caret]
    apply Follows.past
    apply (below (advanced us).length (by omega) _ _ (Nat.le_refl _)).bind
    intro b vs _
    exact follows_lift _ vs
  · rw [powerAfter_stop _ a caret, resume, if_neg caret]
    exact .refl

end Tiers

section Calls

variable {n : Nat} (inner : Simulated setting 0 n)

theorem follows_close (name : String) (args : List Value) (refused : Option Value)
    (ts : List Token) :
    Follows setting frames ⟨.close name args refused, frames, ts, false⟩
      ((close (Function.builtIn.find? name) (.complete args refused)).run ts) := by
  apply Follows.act (m := demand .rightBracket (.answer name args refused) frames ts) rfl
  apply follows_demand
  intro _
  exact Follows.act rfl (follows_lift _ _)

include inner in
theorem follows_argument (name : String) (args : List Value) (refused : Option Value)
    (bound : ts.length ≤ n) :
    Follows setting frames ⟨.tier 0, .argument name args refused :: frames, ts, false⟩
      ((callFrom setting name args refused).run ts) := by
  induction size : ts.length using Nat.strongRecOn generalizing args refused ts with
  | ind m ih =>
    rw [callFrom_eq, ← rung_zero]
    apply (inner _ _ bound).bind
    intro v us run
    have bound' := (shrinks_tier 0).length_le run
    rw [rung_zero]
    cases kept : leaves setting name args refused v with
    | true =>
        rw [run_left kept, resume, if_pos kept]
        exact .refl
    | false =>
        rw [resume, if_neg (by simp [kept])]
        by_cases comma : us.head? = some (.mark .comma)
        · have shorter := advanced_shorter (s := us) comma
          simp only [rest_list] at shorter bound'
          rw [run_another kept comma, if_pos comma]
          apply Follows.past
          exact ih _ (by omega) _ _ (by omega) rfl
        · rw [run_last kept comma, if_neg comma]
          exact follows_close name _ _ us

include inner in
theorem follows_call (name : String) (opened : ts.head? = some (.mark .leftBracket))
    (bound : (advanced ts).length ≤ n) :
    Follows setting frames ⟨.call name, frames, ts, false⟩
      ((Rule.call setting.legacy (whole setting) name).run ts) := by
  cases entered : enters setting name with
  | false =>
      rw [run_unentered entered]
      exact Follows.act (m := ⟨.ended (.ok .nameError), frames, ts, false⟩)
        (by simp [act, entered]) .refl
  | true =>
      apply Follows.act (m := past (.listed name) frames ts)
      · simp [act, entered, demand, opened]
      apply Follows.past
      by_cases closed : (advanced ts).head? = some (.mark .rightBracket)
      · rw [run_noArguments entered closed]
        exact Follows.act (by rw [act, if_pos closed]) (follows_close name [] none _)
      · rw [run_arguments entered closed]
        exact Follows.act (by rw [act, if_neg closed]) (follows_argument inner name [] none bound)

include inner in
theorem follows_identifier (name : String) (bound : (advanced ts).length ≤ n) :
    Follows setting frames ⟨.identifier name, frames, ts, false⟩
      ((identifier setting (whole setting) name).run ts) := by
  apply Follows.act (m := past (.named name) frames ts) rfl
  apply Follows.past
  rw [identifier, run_bind_ok (run_advance ts), run_bind_ok (run_atMark _ _), rest_list]
  by_cases opened : (advanced ts).head? = some (.mark .leftBracket)
  · have shorter := advanced_shorter (s := advanced ts) opened
    simp only [rest_list] at shorter
    rw [if_pos (beq_iff_eq.mpr opened)]
    exact Follows.act (by rw [act, if_pos opened]) (follows_call inner name opened (by omega))
  · rw [if_neg (beq_iff_eq.not.mpr opened)]
    exact Follows.act (by rw [act, if_neg opened]) (follows_lift _ _)

include inner in
theorem follows_bracket (opened : ts.head? = some (.mark .leftBracket))
    (bound : (advanced ts).length ≤ n) :
    Follows setting frames ⟨.bracket, frames, ts, false⟩ ((bracket (whole setting)).run ts) := by
  apply Follows.act (m := past (.tier 0) (.bracket :: frames) ts)
  · simp [act, demand, opened]
  apply Follows.past
  rw [bracket, run_bind_ok (run_advance ts), ← rung_zero]
  apply (inner _ _ bound).bind
  intro v us _
  exact follows_demand fun _ => .refl

end Calls

theorem comes_scan {content us : List Token} (unquoted : .mark .quote ∉ us) (ts : List Token) :
    Comes setting ⟨.scan content, frames, us ++ ts, false⟩
      ⟨.scan (content ++ us), frames, ts, false⟩ := by
  induction us generalizing content with
  | nil =>
      rw [List.nil_append, List.append_nil]
      exact .refl
  | cons t us ih =>
      simp only [List.mem_cons, not_or] at unquoted
      have onward : Comes setting ⟨.scan (content ++ [t]), frames, us ++ ts, false⟩
          ⟨.scan (content ++ [t] ++ us), frames, ts, false⟩ := ih unquoted.2
      rw [List.append_assoc, List.singleton_append] at onward
      exact .head (by simp [step, act, Ne.symm unquoted.1]) onward

theorem follows_string (head : ts.head? = some (.mark .quote)) :
    Follows setting frames ⟨.string, frames, ts, false⟩
      ((quotation : Cursor (List Token) Value).run ts) := by
  obtain ⟨us, rfl⟩ := List.head?_eq_some_iff.mp head
  apply Follows.act (m := ⟨.scan [], frames, us, false⟩) rfl
  by_cases closed : .mark .quote ∈ us
  · obtain ⟨content, vs, rfl, unquoted⟩ := List.eq_append_cons_of_mem closed
    obtain ⟨run, behind⟩ := run_quotation_closed unquoted
      (s := .mark .quote :: (content ++ .mark .quote :: vs)) rfl
    rw [rest_list] at behind
    rw [run, behind]
    apply Follows.after (comes_scan unquoted _)
    apply Follows.act (by rw [act, if_pos rfl, List.nil_append])
    exact Follows.past .refl
  · obtain ⟨run, behind⟩ := run_quotation_open closed (s := .mark .quote :: us) rfl
    rw [rest_list] at behind
    have scanned : Comes setting ⟨.scan [], frames, us ++ [], false⟩ ⟨.scan us, frames, [], false⟩ :=
      comes_scan closed []
    rw [List.append_nil] at scanned
    rw [run, behind]
    exact Follows.after scanned (Follows.act rfl .refl)

section Operands

variable {n : Nat}

theorem follows_word (inner : Simulated setting 0 n) (w : String)
    (bound : (advanced ts).length ≤ n) :
    Follows setting frames (word w frames ts) ((Rule.word setting (whole setting) w).run ts) := by
  unfold word Rule.word
  split
  · rw [run_bind_ok (run_advance ts)]
    exact Follows.past (follows_lift _ _)
  · cases boolean? w with
    | some b =>
        dsimp only
        rw [run_bind_ok (run_advance ts)]
        exact Follows.past .refl
    | none =>
        dsimp only
        split
        · exact follows_identifier inner w bound
        · exact .refl

theorem follows_unary {o : Operator.Additive} (same : Simulated setting 5 n)
    (bound : (advanced ts).length ≤ n) (signed : ts.head?.bind Operator.additive? = some o) :
    Follows setting frames ⟨.unary o, frames, ts, false⟩ ((rung setting 5).run ts) := by
  apply Follows.act (m := past (.tier 5) (.sign o :: frames) ts) rfl
  apply Follows.past
  rw [run_sign signed]
  apply (same _ _ bound).bind
  intro v us _
  exact .refl

theorem simulated_operand (below : ∀ m < n, ∀ k ≤ 5, Simulated setting k m) :
    Simulated setting 5 n := by
  intro frames ts bound
  apply Follows.act (m := operand frames ts) rfl
  have shorter {t : Token} (head : ts.head? = some t) : (advanced ts).length < n :=
    Nat.lt_of_lt_of_le (advanced_shorter (s := ts) head) bound
  unfold operand
  cases signed : ts.head?.bind Operator.additive? with
  | some o =>
      obtain ⟨token, head, -⟩ := Option.bind_eq_some_iff.mp signed
      exact follows_unary (below _ (shorter head) 5 (Nat.le_refl 5)) (Nat.le_refl _) signed
  | none =>
      rw [run_unsigned signed, atom, run_bind_ok (run_peek ts), rest_list]
      have inner {t : Token} (head : ts.head? = some t) : Simulated setting 0 (advanced ts).length :=
        below _ (shorter head) 0 (Nat.zero_le 5)
      cases head : ts.head? with
      | none => exact .refl
      | some t =>
          cases t with
          | word w => exact follows_word (inner head) w (Nat.le_refl _)
          | mark m =>
              cases m with
              | leftBracket => exact follows_bracket (inner head) head (Nat.le_refl _)
              | quote => exact follows_string head
              | _ => exact .refl

end Operands

/-- The machine follows every tier, whatever the tokens are. -/
theorem simulated_rung (n : Nat) {k : Nat} (le : k ≤ 5) : Simulated setting k n := by
  apply rung_induction (motive := Simulated setting) _ _ _ n k le
  · exact fun n below => simulated_operand below
  · exact fun n below five => simulated_power five below
  · exact fun n k low above => simulated_chain low above

end Machine

end Formulary
