import Formulary.Proofs.Grammar.Complete
import Formulary.Proofs.Reading.Verdict
import Formulary.Proofs.Tokens.Pieces

set_option autoImplicit false

namespace Formulary

open Rule Tape Token

section Run

variable {σ : Type} [Tape σ] {setting : Setting} {s u : σ} {v : Value}

theorem run_below {j k : Nat} (le : k ≤ j) (top : j ≤ 5) (run : (rung setting j).run s = .ok v u)
    (stops : Stops k (rest u)) : (rung setting k).run s = .ok v u := by
  induction le with
  | refl => exact run
  | @step m le ih =>
      apply ih (Nat.le_of_succ_le top)
      have stops' := stops.mono le
      by_cases low : m < 4
      · rw [rung_tier setting low, tier_eq, run_bind_ok run]
        exact chainOn_stop _ _ v stops'.head_on
      · obtain rfl : m = 4 := by omega
        rw [rung_four, power_eq (shrinks_rung setting (Nat.le_refl 5)), run_bind_ok run]
        exact powerAfter_stop _ _ (stops' .power (Nat.le_refl 4))

theorem run_number {w : String} {next : List Token} (starts : startsNumber w = true)
    (here : rest s = .word w :: next) :
    (rung setting 5).run s =
      .ok ((Numeral.literal? w).elim .numeralError .number) (advanced s) := by
  rw [run_rung_word (w := w) (by rw [here]; rfl), Rule.word, if_pos starts,
    run_bind_ok (run_advance s), numeral_eq]
  rfl

theorem run_error_left {op : Operation} (low : op.tier < 4) {b : Value} {t : σ}
    (left : (rung setting (op.tier + 1)).run s = .ok v t) (error : v.isError = true)
    (here : (rest t).head? = some (.mark op.mark))
    (right : (rung setting (op.tier + 1)).run (advanced t) = .ok b u)
    (stops : Stops op.tier (rest u)) : (rung setting op.tier).run s = .ok v u := by
  have found : (rest t).head?.bind (Operation.on op.tier) = some op := by
    rw [here]
    exact Operation.on_eq_some.mpr ⟨rfl, rfl⟩
  have result : join Operation.apply op v b = .ok v := if_pos error
  have met : (lift (join Operation.apply op v b) : Cursor σ Value).run u = .ok v u := by
    rw [result]
    rfl
  rw [rung_tier setting low, tier_eq, run_bind_ok left,
    chainOn_step (shrinks_rung setting (by omega)) _ _ _ found, run_bind_ok right,
    run_bind_ok met, chainOn_stop _ _ _ stops.head_on]

end Run

def signs (os : List Operator.Additive) : List Token := os.map fun o => .mark o.mark

section Signs

variable {os : List Operator.Additive} {ts : List Token}

theorem canonical_signs (canonical : Canonical ts) (given : ts ≠ []) :
    Canonical (signs os ++ ts) := by
  induction os with
  | nil => exact canonical
  | cons o os ih =>
      have given' : signs os ++ ts ≠ [] := List.append_ne_nil_of_right_ne_nil _ given
      constructor
      · intro w mem
        exact ih.words w (List.mem_of_ne_of_mem (by simp) mem)
      · refine List.isChain_cons.mpr ⟨fun t _ => ?_, ih.apart⟩
        cases o <;> simp [Operator.Additive.mark, Apart, barred, joining]
      · cases o <;> simp [signs, Operator.Additive.mark]
      · change (Token.mark o.mark :: (signs os ++ ts)).getLast? ≠ _
        rw [List.getLast?_cons_of_ne_nil given']
        exact ih.stop

theorem settled_signs (settled : Settled ts) : Settled (signs os ++ ts) := by
  cases os with
  | nil => exact settled
  | cons o os => cases o <;> simp [Settled, signs, Operator.Additive.mark]

theorem run_signs {setting : Setting} {v : Value} {u : List Token} (settled : Settled ts)
    (run : (rung setting 5).run ts = .ok v u) :
    (rung setting 5).run (signs os ++ ts) = .ok (os.foldr Operator.signed v) u := by
  induction os with
  | nil => exact run
  | cons o os ih =>
      have behind : advanced (signs (o :: os) ++ ts) = signs os ++ ts :=
        skipSpaces_settled (settled_signs settled)
      have signed : (rest (signs (o :: os) ++ ts)).head?.bind Operator.additive? = some o := by
        cases o <;> rfl
      rw [run_sign signed, behind, run_bind_ok ih]
      rfl

end Signs

theorem evaluate_of_run {setting : Setting} {e : String} {ts : List Token} {v : Value} {k : Nat}
    (read : tokens e = ts) (given : ts ≠ []) (le : k ≤ 5)
    (run : (rung setting k).run ts = .ok v []) : evaluate setting e = v := by
  have whole := run_below (Nat.zero_le k) le run (stops_nil 0)
  rw [rung_zero] at whole
  rw [evaluate_eq_verdict setting (read ▸ given), read, whole]
  simp [verdict]

theorem evaluate_signed (setting : Setting) {os : List Operator.Additive} {w e : String}
    (read : tokens e = signs os ++ [.word w]) (starts : startsNumber w = true) :
    evaluate setting e =
      os.foldr Operator.signed ((Numeral.literal? w).elim .numeralError .number) :=
  evaluate_of_run read (by simp) (Nat.le_refl 5)
    (run_signs (by simp [Settled]) (run_number starts rfl))

theorem canonical_sum (o : Operator.Additive) {w v : String} (word : IsWord w) (word' : IsWord v) :
    Canonical [.word w, .mark o.mark, .word v] where
  words u mem := by
    obtain rfl | rfl : u = w ∨ u = v := by simpa using mem
    · exact word
    · exact word'
  apart := by cases o <;> simp [Operator.Additive.mark, Apart, barred, joining]
  start := by simp
  stop := by simp

theorem foldr_signed_error (os : List Operator.Additive) (text : String) :
    os.foldr Operator.signed (.error text) = .error text := by
  induction os with
  | nil => rfl
  | cons o os ih => rw [List.foldr_cons, ih, Operator.signed]

theorem evaluate_sum (setting : Setting) {os : List Operator.Additive} {o : Operator.Additive}
    {w v e : String} (read : tokens e = signs os ++ [.word w, .mark o.mark, .word v])
    (starts : startsNumber w = true) (starts' : startsNumber v = true)
    (none : Numeral.literal? w = none) : evaluate setting e = .numeralError := by
  have settled : Settled [.mark o.mark, .word v] := by
    cases o <;> simp [Settled, Operator.Additive.mark]
  have stops : Stops 3 [.mark o.mark, .word v] :=
    stops_operation (.add o) (Nat.lt_succ_self _) _
  have first : (rung setting 5).run (signs os ++ [.word w, .mark o.mark, .word v]) =
      .ok .numeralError [.mark o.mark, .word v] := by
    have number : (rung setting 5).run [.word w, .mark o.mark, .word v] =
        .ok ((Numeral.literal? w).elim .numeralError .number)
          (advanced [Token.word w, .mark o.mark, .word v]) := run_number starts rfl
    have signed : (rung setting 5).run (signs os ++ [.word w, .mark o.mark, .word v]) = _ :=
      run_signs (by simp [Settled]) number
    rw [none] at signed
    have error : os.foldr Operator.signed .numeralError = .numeralError := foldr_signed_error os _
    have behind : advanced [Token.word w, .mark o.mark, .word v] = [.mark o.mark, .word v] :=
      skipSpaces_settled settled
    rw [signed, behind]
    exact congrArg (EStateM.Result.ok · _) error
  have second : (rung setting 5).run (advanced [.mark o.mark, Token.word v]) =
      .ok ((Numeral.literal? v).elim .numeralError .number) [] := run_number starts' rfl
  have left := run_below (show 3 ≤ 5 by decide) (Nat.le_refl 5) first stops
  have right := run_below (show 3 ≤ 5 by decide) (Nat.le_refl 5) second (stops_nil _)
  have low : (Operation.add o).tier < 4 := by simp [Operation.tier]
  have sum : (rung setting 2).run (signs os ++ [.word w, .mark o.mark, .word v]) =
      .ok .numeralError [] := run_error_left low left rfl rfl right (stops_nil _)
  exact evaluate_of_run read (by simp) (by decide) sum

end Formulary
