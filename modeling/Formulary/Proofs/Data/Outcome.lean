import Mathlib.Data.List.Basic

set_option autoImplicit false

namespace Formulary

theorem bind_eq_ok {ε α β : Type} {e : Except ε α} {g : α → Except ε β} {b : β} :
    (do g (← e)) = .ok b ↔ ∃ a, e = .ok a ∧ g a = .ok b := by
  cases e with
  | error f => exact ⟨nofun, nofun⟩
  | ok a => exact ⟨fun met => ⟨a, rfl, met⟩, fun ⟨_, same, met⟩ => by cases same; exact met⟩

theorem map_eq_ok {ε α β : Type} {e : Except ε α} {f : α → β} {b : β} :
    f <$> e = .ok b ↔ ∃ a, e = .ok a ∧ f a = b := by
  cases e <;> simp

theorem map_eq_error {ε α β : Type} {e : Except ε α} {f : α → β} {fault : ε} :
    f <$> e = .error fault ↔ e = .error fault := by
  cases e <;> simp

theorem mapError_eq_ok {ε ε' α : Type} {e : Except ε α} {f : ε → ε'} {a : α} :
    e.mapError f = .ok a ↔ e = .ok a := by
  cases e <;> simp [Except.mapError]

theorem given_of_mapM {α β : Type} {f : α → Option β} {xs : List α} {ys : List β}
    (all : xs.mapM f = some ys) {y : β} (mem : y ∈ ys) : ∃ x ∈ xs, f x = some y := by
  induction xs generalizing ys with
  | nil =>
      simp only [List.mapM_nil, Option.pure_def, Option.some.injEq] at all
      subst all
      cases mem
  | cons x xs ih =>
      simp only [List.mapM_cons, Option.pure_def, Option.bind_eq_bind, Option.bind_eq_some_iff,
        Option.some.injEq] at all
      obtain ⟨first, given, others, rest, rfl⟩ := all
      obtain rfl | mem := List.mem_cons.mp mem
      · exact ⟨x, List.mem_cons_self .., given⟩
      · obtain ⟨x', mem', given'⟩ := ih rest mem
        exact ⟨x', List.mem_cons_of_mem _ mem', given'⟩

theorem mapM_eq_some_map {α β : Type} {f : α → Option β} {g : α → β} {xs : List α}
    (each : ∀ x ∈ xs, f x = some (g x)) : xs.mapM f = some (xs.map g) := by
  induction xs with
  | nil => rfl
  | cons x xs ih =>
      obtain ⟨first, others⟩ := List.forall_mem_cons.mp each
      rw [List.mapM_cons, first, ih others]
      rfl

theorem mapM_eq_none {α β : Type} {f : α → Option β} {xs : List α} :
    xs.mapM f = none ↔ ∃ x ∈ xs, f x = none := by
  induction xs with
  | nil => simp
  | cons x xs ih =>
      rw [List.mapM_cons, List.exists_mem_cons_iff, ← ih]
      cases f x with
      | none => simp
      | some y => cases xs.mapM f <;> simp

theorem mapM_eq_error {ε α β : Type} {f : α → Except ε β} {xs : List α} {e : ε} :
    xs.mapM f = .error e ↔
      ∃ before x after, xs = before ++ x :: after ∧ (∀ y ∈ before, ∃ b, f y = .ok b) ∧
        f x = .error e := by
  induction xs with
  | nil => simp [pure, Except.pure]
  | cons x xs ih =>
      cases first : f x with
      | error e' =>
          have here : (x :: xs).mapM f = .error e' := by
            simp [List.mapM_cons, first, bind, Except.bind]
          rw [here]
          constructor
          · intro same
            cases same
            exact ⟨[], x, xs, rfl, nofun, first⟩
          · rintro ⟨before, y, after, split, fine, failed⟩
            -- Nothing stands before the failure, as the first step would have failed there.
            cases before with
            | nil =>
                obtain ⟨rfl, -⟩ := List.cons.inj split
                exact congrArg Except.error (Except.error.inj (first.symm.trans failed))
            | cons z before =>
                obtain ⟨rfl, -⟩ := List.cons.inj split
                obtain ⟨b, given⟩ := fine x (List.mem_cons_self ..)
                rw [first] at given
                cases given
      | ok b =>
          have here : (x :: xs).mapM f = .error e ↔ xs.mapM f = .error e := by
            cases others : xs.mapM f <;>
              simp [List.mapM_cons, first, others, bind, Except.bind, pure, Except.pure]
          rw [here, ih]
          constructor
          · rintro ⟨before, y, after, rfl, fine, failed⟩
            exact ⟨x :: before, y, after, rfl, List.forall_mem_cons.mpr ⟨⟨b, first⟩, fine⟩, failed⟩
          · rintro ⟨before, y, after, split, fine, failed⟩
            cases before with
            | nil =>
                obtain ⟨rfl, -⟩ := List.cons.inj split
                rw [first] at failed
                cases failed
            | cons z before =>
                obtain ⟨rfl, rfl⟩ := List.cons.inj split
                exact ⟨before, y, after, rfl, (List.forall_mem_cons.mp fine).2, failed⟩

theorem forM_ok {ε α : Type} {f : α → Except ε Unit} {xs : List α} (each : ∀ x ∈ xs, f x = .ok ()) :
    xs.forM f = .ok () := by
  induction xs with
  | nil => rfl
  | cons x xs ih =>
      obtain ⟨first, others⟩ := List.forall_mem_cons.mp each
      have step : (x :: xs).forM f = (f x >>= fun _ => xs.forM f) := rfl
      rw [step, first]
      exact ih others

theorem mapM_map_ok {ε α β γ : Type} {f : α → Except ε β} {before : γ → α} {after : γ → β}
    {xs : List γ} (each : ∀ x ∈ xs, f (before x) = .ok (after x)) :
    (xs.map before).mapM f = .ok (xs.map after) := by
  induction xs with
  | nil => rfl
  | cons x xs ih =>
      obtain ⟨first, others⟩ := List.forall_mem_cons.mp each
      rw [List.map_cons, List.mapM_cons, first, ih others]
      rfl

end Formulary
