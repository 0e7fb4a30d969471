import Formulary.Proofs.Reading.Course

set_option autoImplicit false

namespace Formulary.Rule

open Tape

variable {σ : Type} [Tape σ] {α : Type}

section Chain

variable {operand : Cursor σ Value} (shrinks : Shrinks operand) (operator? : Token → Option α)
  (combine : α → Value → Value → Except Fault Value)

include shrinks in
-- Every turn reads a token, so no chain takes more turns than there are tokens.
theorem chain_turns {n m : Nat} (a : Value) {s : σ} (enough : (rest s).length ≤ n)
    (enough' : (rest s).length ≤ m) :
    (chain operand operator? combine n a).run s = (chain operand operator? combine m a).run s := by
  induction n generalizing m a s with
  | zero =>
      have empty : rest s = [] := List.length_eq_zero_iff.mp (by omega)
      cases m <;> simp [chain, empty]
  | succ n ih =>
      cases m with
      | zero =>
          have empty : rest s = [] := List.length_eq_zero_iff.mp (by omega)
          simp [chain, empty]
      | succ m =>
          simp only [chain]
          rw [run_bind_ok (run_peek s), run_bind_ok (run_peek s)]
          cases found : (rest s).head?.bind operator? with
          | none => rfl
          | some op =>
              obtain ⟨t, head, -⟩ := Option.bind_eq_some_iff.mp found
              have shorter := advanced_shorter head
              rw [run_bind_ok (run_advance s), run_bind_ok (run_advance s)]
              apply run_bind_congr
              intro b u run
              have bound := shrinks.length_le run
              apply run_bind_congr
              intro c v joined
              obtain ⟨-, rfl⟩ := run_lift_eq_ok joined
              exact ih c (by omega) (by omega)

def chainOn (operand : Cursor σ Value) (operator? : Token → Option α)
    (combine : α → Value → Value → Except Fault Value) (a : Value) : Cursor σ Value := do
  chain operand operator? combine (← size) a

theorem tier_eq (operand : Cursor σ Value) (operator? : Token → Option α)
    (combine : α → Value → Value → Except Fault Value) :
    tier operator? combine operand = (do chainOn operand operator? combine (← operand)) := rfl

theorem chainOn_stop (a : Value) {s : σ} (stop : (rest s).head?.bind operator? = none) :
    (chainOn operand operator? combine a).run s = .ok a s := by
  simp only [chainOn, EStateM.run_bind, run_size]
  cases (rest s).length with
  | zero => rfl
  | succ n => simp [chain, stop]

theorem keeps_chainOn {R : σ → σ → Prop} (c : Course R) {operand : Cursor σ Value}
    (h : Keeps R operand) (operator? : Token → Option α)
    (combine : α → Value → Value → Except Fault Value) (a : Value) :
    Keeps R (chainOn operand operator? combine a) :=
  keeps_bind c (keeps_size c) fun _ => keeps_chain c h operator? combine _ a

include shrinks in
theorem chainOn_step (a : Value) {s : σ} {op : α} (found : (rest s).head?.bind operator? = some op) :
    (chainOn operand operator? combine a).run s =
      (do
        let b ← operand
        chainOn operand operator? combine (← lift (join combine op a b))).run (advanced s) := by
  obtain ⟨t, head, -⟩ := Option.bind_eq_some_iff.mp found
  have shorter := advanced_shorter head
  obtain ⟨n, hn⟩ : ∃ n, (rest s).length = n + 1 := ⟨(rest s).length - 1, by omega⟩
  rw [chainOn, run_bind_ok (run_size s), hn]
  simp only [chain]
  rw [run_bind_ok (run_peek s)]
  simp only [found]
  rw [run_bind_ok (run_advance s)]
  apply run_bind_congr
  intro b u run
  have bound := shrinks.length_le run
  apply run_bind_congr
  intro c v joined
  obtain ⟨-, rfl⟩ := run_lift_eq_ok joined
  exact chain_turns shrinks operator? combine c (by omega) (by omega)

include shrinks in
/-- What every turn keeps holds at the end of the chain. There are fewer tokens after each turn. -/
theorem chainOn_invariant {motive : Value → σ → Prop}
    (turn : ∀ {op a s b t c}, (rest s).head?.bind operator? = some op → motive a s →
      operand.run (advanced s) = .ok b t → join combine op a b = .ok c → motive c t)
    {a v : Value} {s u : σ} (start : motive a s)
    (run : (chainOn operand operator? combine a).run s = .ok v u) : motive v u := by
  induction size : (rest s).length using Nat.strongRecOn generalizing a s with
  | ind m ih =>
    cases found : (rest s).head?.bind operator? with
    | none =>
        rw [chainOn_stop operator? combine a found] at run
        cases run
        exact start
    | some op =>
        obtain ⟨token, head, -⟩ := Option.bind_eq_some_iff.mp found
        have shorter := advanced_shorter head
        rw [chainOn_step shrinks operator? combine a found] at run
        obtain ⟨b, t, second, run⟩ := run_bind_eq_ok run
        obtain ⟨c, t', joined, onward⟩ := run_bind_eq_ok run
        obtain ⟨met, rfl⟩ := run_lift_eq_ok joined
        have bound := shrinks.length_le second
        exact ih _ (by omega) (turn found start second met) onward rfl

end Chain

section Power

variable {factor : Cursor σ Value} (shrinks : Shrinks factor)

include shrinks in
theorem powerChain_turns {n m : Nat} {s : σ} (enough : (rest s).length ≤ n)
    (enough' : (rest s).length ≤ m) :
    (powerChain factor n).run s = (powerChain factor m).run s := by
  -- Without tokens there is no caret behind the base.
  have alone (k : Nat) (s : σ) (empty : rest s = []) :
      (powerChain factor k).run s = factor.run s := by
    cases k with
    | zero => rfl
    | succ k =>
        simp only [powerChain, EStateM.run_bind]
        cases run : factor.run s with
        | error f u => rfl
        | ok a u =>
            have bound := shrinks.length_le run
            have empty' : rest u = [] := List.length_eq_zero_iff.mp (by simp_all)
            simp [empty']
  induction n generalizing m s with
  | zero =>
      have empty : rest s = [] := List.length_eq_zero_iff.mp (by omega)
      rw [alone _ s empty, alone _ s empty]
  | succ n ih =>
      cases m with
      | zero =>
          have empty : rest s = [] := List.length_eq_zero_iff.mp (by omega)
          rw [alone _ s empty, alone _ s empty]
      | succ m =>
          simp only [powerChain, EStateM.run_bind]
          cases run : factor.run s with
          | error f u => rfl
          | ok a u =>
              simp only [run_atMark]
              by_cases caret : (rest u).head? = some (.mark .caret)
              · have bound := shrinks.length_le run
                have shorter := advanced_shorter caret
                simp only [caret, beq_self_eq_true, if_true, EStateM.run_bind, run_advance]
                rw [ih (s := advanced u) (m := m) (by omega) (by omega)]
              · simp [caret]

def powerAfter (factor : Cursor σ Value) (a : Value) : Cursor σ Value := do
  if ← atMark .caret then
    advance
    lift (join Operator.raise () a (← power factor))
  else return a

theorem keeps_powerAfter {R : σ → σ → Prop} (c : Course R) {factor : Cursor σ Value}
    (h : Keeps R factor) (a : Value) : Keeps R (powerAfter factor a) := by
  apply keeps_bind c (keeps_atMark c _)
  intro found
  split
  · apply keeps_bind c (keeps_advance c)
    intro _
    exact keeps_bind c (keeps_power c h) fun _ => keeps_lift c _
  · exact keeps_pure c a

theorem powerAfter_stop (factor : Cursor σ Value) (a : Value) {s : σ}
    (stop : (rest s).head? ≠ some (.mark .caret)) : (powerAfter factor a).run s = .ok a s := by
  rw [powerAfter, run_bind_ok (run_atMark _ s), if_neg (by simpa using stop)]
  rfl

theorem powerAfter_step (factor : Cursor σ Value) (a : Value) {s : σ}
    (caret : (rest s).head? = some (.mark .caret)) :
    (powerAfter factor a).run s =
      (do lift (join Operator.raise () a (← power factor))).run (advanced s) := by
  rw [powerAfter, run_bind_ok (run_atMark _ s), if_pos (by simpa using caret),
    run_bind_ok (run_advance s)]

include shrinks in
theorem power_eq : power factor = (do powerAfter factor (← factor)) := by
  funext s
  change (power factor).run s = EStateM.run _ s
  simp only [power, EStateM.run_bind, run_size]
  rw [powerChain_turns shrinks (Nat.le_refl _) (Nat.le_succ _)]
  simp only [powerChain, EStateM.run_bind]
  cases run : factor.run s with
  | error f u => rfl
  | ok a u =>
      simp only [run_atMark]
      by_cases caret : (rest u).head? = some (.mark .caret)
      · have bound := shrinks.length_le run
        have shorter := advanced_shorter caret
        rw [powerAfter_step factor a caret]
        simp only [caret, beq_self_eq_true, if_true, EStateM.run_bind, run_advance, power, run_size]
        rw [powerChain_turns shrinks (s := advanced u) (Nat.le_trans (by omega) (Nat.le_refl _))
          (Nat.le_refl _)]
      · rw [powerAfter_stop factor a caret]
        simp [caret]

end Power

theorem signChain_turns (atom : Cursor σ Value) {n m : Nat} {s : σ}
    (enough : (rest s).length ≤ n) (enough' : (rest s).length ≤ m) :
    (signChain atom n).run s = (signChain atom m).run s := by
  induction n generalizing m s with
  | zero =>
      have empty : rest s = [] := List.length_eq_zero_iff.mp (by omega)
      cases m <;> simp [signChain, empty]
  | succ n ih =>
      cases m with
      | zero =>
          have empty : rest s = [] := List.length_eq_zero_iff.mp (by omega)
          simp [signChain, empty]
      | succ m =>
          simp only [signChain, EStateM.run_bind, run_peek]
          cases found : (rest s).head?.bind Operator.additive? with
          | none => rfl
          | some sign =>
              obtain ⟨t, head, -⟩ := Option.bind_eq_some_iff.mp found
              have shorter := advanced_shorter head
              simp only [EStateM.run_bind, run_advance]
              rw [ih (s := advanced s) (m := m) (by omega) (by omega)]

theorem factor_eq (atom : Cursor σ Value) :
    factor atom = (do
      match (← peek).bind Operator.additive? with
      | some sign =>
          advance
          return Operator.signed sign (← factor atom)
      | none => atom) := by
  funext s
  change (factor atom).run s = EStateM.run _ s
  simp only [factor, EStateM.run_bind, run_size, run_peek]
  rw [signChain_turns atom (Nat.le_refl _) (Nat.le_succ _)]
  simp only [signChain, EStateM.run_bind, run_peek]
  cases found : (rest s).head?.bind Operator.additive? with
  | none => rfl
  | some sign =>
      obtain ⟨t, head, -⟩ := Option.bind_eq_some_iff.mp found
      have shorter := advanced_shorter head
      simp only [EStateM.run_bind, run_advance, run_size]
      rw [signChain_turns atom (s := advanced s) (Nat.le_of_lt shorter) (Nat.le_refl _)]

section Arguments

variable {inner : Cursor σ Value} (shrinks : Shrinks inner) (legacy : Bool)
  (admitsError : Nat → Bool)

include shrinks in
theorem arguments_turns {n m : Nat} (args : List Value) (refused : Option Value) {s : σ}
    (enough : (rest s).length < n) (enough' : (rest s).length < m) :
    (arguments inner legacy admitsError n args refused).run s =
      (arguments inner legacy admitsError m args refused).run s := by
  induction n generalizing m args refused s with
  | zero => omega
  | succ n ih =>
      cases m with
      | zero => omega
      | succ m =>
          simp only [arguments, EStateM.run_bind]
          cases run : inner.run s with
          | error f u => rfl
          | ok arg u =>
              have bound := shrinks.length_le run
              dsimp only
              split
              · rfl
              · simp only [EStateM.run_bind, run_atMark]
                by_cases comma : (rest u).head? = some (.mark .comma)
                · have shorter := advanced_shorter comma
                  simp only [comma, beq_self_eq_true, if_true, EStateM.run_bind, run_advance]
                  exact ih _ _ (by omega) (by omega)
                · simp [comma]

def argumentsOn (inner : Cursor σ Value) (legacy : Bool) (admitsError : Nat → Bool)
    (args : List Value) (refused : Option Value) : Cursor σ Arguments := do
  arguments inner legacy admitsError ((← size) + 1) args refused

theorem listed_eq (inner : Cursor σ Value) :
    listed inner legacy admitsError = (do
      if ← atMark .rightBracket then return .complete [] none
      else argumentsOn inner legacy admitsError [] none) := rfl

def refusedAfter (admitsError : Nat → Bool) (args : List Value) (refused : Option Value)
    (arg : Value) : Option Value :=
  if arg.isError && !admitsError args.length && refused.isNone then some arg else refused

def argumentsAfter (inner : Cursor σ Value) (legacy : Bool) (admitsError : Nat → Bool)
    (args : List Value) (refused : Option Value) (arg : Value) : Cursor σ Arguments := do
  if (arg.isError && !admitsError args.length && refused.isNone) && legacy then
    return .abandoned arg
  else if ← atMark .comma then
    advance
    argumentsOn inner legacy admitsError (args ++ [arg])
      (refusedAfter admitsError args refused arg)
  else return .complete (args ++ [arg]) (refusedAfter admitsError args refused arg)

theorem keeps_argumentsAfter {R : σ → σ → Prop} (c : Course R) {inner : Cursor σ Value}
    (h : Keeps R inner) (args : List Value) (refused : Option Value) (arg : Value) :
    Keeps R (argumentsAfter inner legacy admitsError args refused arg) := by
  unfold argumentsAfter
  split
  · exact keeps_pure c _
  · apply keeps_bind c (keeps_atMark c _)
    intro found
    split
    · apply keeps_bind c (keeps_advance c)
      intro _
      exact keeps_bind c (keeps_size c) fun _ => keeps_arguments c h _ _ _ _ _
    · exact keeps_pure c _

include shrinks in
theorem argumentsOn_eq (args : List Value) (refused : Option Value) :
    argumentsOn inner legacy admitsError args refused =
      (do argumentsAfter inner legacy admitsError args refused (← inner)) := by
  funext s
  change (argumentsOn inner legacy admitsError args refused).run s = EStateM.run _ s
  rw [argumentsOn, run_bind_ok (run_size s)]
  simp only [arguments]
  apply run_bind_congr
  intro arg u run
  have bound := shrinks.length_le run
  unfold argumentsAfter
  split
  · rfl
  · rw [run_bind_ok (run_atMark _ u), run_bind_ok (run_atMark _ u)]
    by_cases comma : (rest u).head? = some (.mark .comma)
    · have shorter := advanced_shorter comma
      simp only [comma, beq_self_eq_true, if_true]
      rw [run_bind_ok (run_advance u), run_bind_ok (run_advance u), argumentsOn,
        run_bind_ok (run_size _)]
      exact arguments_turns shrinks legacy admitsError _ _ (by omega) (by omega)
    · simp [comma, refusedAfter]

end Arguments

end Formulary.Rule
