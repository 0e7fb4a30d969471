import Formulary.Proofs.Reading.Lockstep

set_option autoImplicit false

namespace Formulary.Rule

open Tape Pairing

variable {σ : Type} [Tape σ] {α : Type}

theorem shrinks_formula (setting : Setting) (depth : Nat) :
    Shrinks (formula setting depth : Cursor σ Value) := keeps_formula course_suffix setting depth

theorem shrinks_atom {inner : Cursor σ Value} (shrinks : Shrinks inner) (setting : Setting) :
    Shrinks (atom setting inner) := keeps_atom course_suffix shrinks setting

theorem comparison_empty (setting : Setting) {inner : Cursor σ Value} (shrinks : Shrinks inner)
    {s : σ} (empty : rest s = []) :
    (comparison setting inner).run s = .ok .tokenError s := by
  have atoms : (atom setting inner).run s = .ok .tokenError s := by
    rw [atom, run_bind_ok (run_peek s), empty]; rfl
  have factors : (factor (atom setting inner)).run s = .ok .tokenError s := by
    rw [factor_eq, run_bind_ok (run_peek s), empty]; exact atoms
  have powers : (power (factor (atom setting inner))).run s = .ok .tokenError s := by
    rw [power_eq (keeps_factor course_suffix (shrinks_atom shrinks setting)),
      run_bind_ok factors]
    exact powerAfter_stop _ _ (by simp [empty])
  have tiers {α : Type} {operand : Cursor σ Value} {operator? : Token → Option α}
      {combine : α → Value → Value → Except Fault Value}
      (run : operand.run s = .ok .tokenError s) :
      (tier operator? combine operand).run s = .ok .tokenError s := by
    rw [tier_eq, run_bind_ok run]
    exact chainOn_stop operator? combine _ (by simp [empty])
  exact tiers (tiers (tiers (tiers powers)))

theorem lockstep_exhausted {τ : Type} [Tape τ] {P : Pairing σ τ} (steady : P.Steady)
    {setting setting' : Setting} {left : Cursor σ Value} {right : Cursor τ Value}
    (shrinks : Shrinks left) (shrinks' : Shrinks right) :
    (P.within 0).Lockstep (comparison setting left) (comparison setting' right) := by
  intro s t paired
  have empty : rest s = [] := List.length_eq_zero_iff.mp (Nat.le_zero.mp paired.2)
  rw [comparison_empty setting shrinks empty,
    comparison_empty setting' shrinks' (steady.empty paired.1 empty)]
  exact ⟨rfl, paired⟩

theorem agree_of_eq (r : EStateM.Result Fault σ α) :
    (alike fun s t : σ => s = t).Agree r r := by
  cases r <;> exact ⟨rfl, rfl, rfl⟩

theorem eq_of_agree {r r' : EStateM.Result Fault σ α}
    (agree : (alike fun s t => s = t).Agree r r') : r = r' := by
  cases r <;> cases r' <;> simp_all [Agree, alike]

theorem comparison_congr (setting : Setting) {left right : Cursor σ Value}
    (shrinks : Shrinks left) (shrinks' : Shrinks right) {n : Nat}
    (h : ∀ s : σ, (rest s).length < n → left.run s = right.run s) {s : σ}
    (bound : (rest s).length ≤ n) :
    (comparison setting left).run s = (comparison setting right).run s := by
  have steady := steady_alike (σ := σ) linked_eq
  apply eq_of_agree
  cases n with
  | zero => exact (lockstep_exhausted steady shrinks shrinks' s s ⟨⟨rfl, rfl⟩, bound⟩).of_within
  | succ n =>
      have inner : ((alike fun s t : σ => s = t).within n).Lockstep left right := by
        rintro u _ ⟨⟨-, rfl⟩, b⟩
        rw [← h u (by omega)]
        exact (agree_of_eq _).within shrinks b
      have both := lockstep_comparison (steady.within (n + 1)) shrinks shrinks'
        (lockstep_atom_alike linked_eq shrinks shrinks' setting inner)
      exact (both s s ⟨⟨rfl, rfl⟩, bound⟩).of_within

theorem formula_depth (setting : Setting) {n m : Nat} {s : σ} (enough : (rest s).length ≤ n)
    (enough' : (rest s).length ≤ m) :
    (formula setting n).run s = (formula setting m).run s := by
  have alone (k : Nat) (s : σ) (empty : rest s = []) :
      (formula setting k).run s = .ok .tokenError s := by
    cases k with
    | zero => rfl
    | succ k => exact comparison_empty setting (shrinks_formula setting k) empty
  induction n generalizing m s with
  | zero =>
      have empty : rest s = [] := List.length_eq_zero_iff.mp (by omega)
      rw [alone _ s empty, alone _ s empty]
  | succ n ih =>
      cases m with
      | zero =>
          have empty : rest s = [] := List.length_eq_zero_iff.mp (by omega)
          rw [alone _ s empty, alone _ s empty]
      | succ m =>
          exact comparison_congr setting (shrinks_formula setting n) (shrinks_formula setting m)
            (n := (rest s).length) (fun u shorter => ih (by omega) (by omega)) (Nat.le_refl _)

/-- The rule for a whole formula, nested as deeply as the tokens allow. -/
def whole (setting : Setting) : Cursor σ Value := do formula setting (← size)

theorem run_whole (setting : Setting) (s : σ) :
    (whole setting).run s = (formula setting (rest s).length).run s := rfl

theorem keeps_whole {R : σ → σ → Prop} (c : Course R) (setting : Setting) :
    Keeps R (whole setting) :=
  keeps_bind c (keeps_size c) fun n => keeps_formula c setting n

theorem shrinks_whole (setting : Setting) : Shrinks (whole setting : Cursor σ Value) :=
  keeps_whole course_suffix setting

theorem whole_eq (setting : Setting) :
    (whole setting : Cursor σ Value) = comparison setting (whole setting) := by
  funext s
  change (whole setting).run s = (comparison setting (whole setting)).run s
  rw [run_whole, formula_depth setting (Nat.le_refl _) (Nat.le_succ _)]
  exact comparison_congr setting (shrinks_formula setting _) (shrinks_whole setting)
    (n := (rest s).length)
    (fun u shorter => formula_depth setting (by omega) (Nat.le_refl _)) (Nat.le_refl _)

theorem lockstep_whole {τ : Type} [Tape τ] {P : Pairing σ τ} (steady : P.Steady)
    {setting setting' : Setting}
    (atoms : ∀ n, (P.within n).Lockstep (whole setting) (whole setting') →
      (P.within (n + 1)).Lockstep (atom setting (whole setting))
        (atom setting' (whole setting'))) :
    P.Lockstep (whole setting) (whole setting') := by
  -- Up to `n` tokens at a time, as an operand reads at least one of them before it nests.
  have bounded (n : Nat) : (P.within n).Lockstep (whole setting) (whole setting') := by
    induction n with
    | zero =>
        rw [whole_eq setting, whole_eq setting']
        exact lockstep_exhausted steady (shrinks_whole setting) (shrinks_whole setting')
    | succ n ih =>
        rw [whole_eq setting, whole_eq setting']
        exact lockstep_comparison (steady.within (n + 1)) (shrinks_whole setting)
          (shrinks_whole setting') (atoms n ih)
  intro s t paired
  exact (bounded _ s t ⟨paired, Nat.le_refl _⟩).of_within

theorem lockstep_alike {τ : Type} [Tape τ] {link : σ → τ → Prop} (linked : Linked link)
    (setting : Setting) : (alike link).Lockstep (whole setting) (whole setting) :=
  lockstep_whole (steady_alike linked) fun _ h =>
    lockstep_atom_alike linked (shrinks_whole setting) (shrinks_whole setting) setting h

end Formulary.Rule
