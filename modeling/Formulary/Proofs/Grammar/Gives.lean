import Formulary.Proofs.Grammar.Yield

set_option autoImplicit false

namespace Formulary

open Tape Rule Token

def Stops (k : Nat) (next : List Token) : Prop :=
  ∀ op : Operation, k ≤ op.tier → next.head? ≠ some (.mark op.mark)

theorem Stops.mono {j k : Nat} (le : k ≤ j) {next : List Token} (stops : Stops k next) :
    Stops j next := fun op tier => stops op (Nat.le_trans le tier)

theorem Stops.above {k : Nat} {next : List Token} (stops : Stops k next) : Stops (k + 1) next :=
  stops.mono (Nat.le_succ k)

theorem Stops.head_on {k : Nat} {next : List Token} (stops : Stops k next) :
    next.head?.bind (Operation.on k) = none :=
  Operation.head_on.mpr fun op tier => stops op (Nat.le_of_eq tier.symm)

theorem stops_mark (k : Nat) {m : Separator} (other : Operation.ofMark? m = none)
    (ts : List Token) : Stops k (.mark m :: ts) := by
  intro op _ head
  rw [List.head?_cons, Option.some.injEq, Token.mark.injEq] at head
  exact op.mark_ne other head.symm

theorem stops_operation {k : Nat} (op : Operation) (below : op.tier < k) (ts : List Token) :
    Stops k (.mark op.mark :: ts) := by
  intro op' tier head
  rw [List.head?_cons, Option.some.injEq, Token.mark.injEq] at head
  rw [Operation.mark_injective head] at below
  omega

theorem stops_nil (k : Nat) : Stops k [] := by simp [Stops]

section Gives

variable {σ : Type} [Tape σ] {α β : Type}

/-- What a run makes of a tree: its value, in front of what stands behind the tree, unless a call
was left unread on the way. -/
def Gives (Cut : σ → Prop) (e : Except Fault α) (next : List Token) :
    EStateM.Result Fault σ α → Prop
  | .ok a s => Cut s ∨ (e = .ok a ∧ rest s = next)
  | .error f s => Cut s ∨ e = .error f

structure Noted (Cut : σ → Prop) (setting : Setting) : Prop where
  course : Course fun s t => Cut s → Cut t
  cut : setting.legacy = true → ∀ s, Cut (Tape.cut s)

theorem noted_default (setting : Setting) (default : setting.legacy = false) :
    Noted (fun _ : σ => False) setting where
  course := ⟨fun _ h => h, fun _ _ h => h.elim, fun _ _ h => h, fun _ h => h⟩
  cut legacy := by rw [default] at legacy; cases legacy

variable {Cut : σ → Prop}

theorem gives_cut {e : Except Fault α} {next : List Token} {r : EStateM.Result Fault σ α}
    (cut : Cut (Cursor.last r)) : Gives Cut e next r := by
  cases r <;> exact .inl cut

theorem Gives.eq_ok {a : α} {next : List Token} {r : EStateM.Result Fault σ α}
    (gives : Gives Cut (.ok a) next r) (uncut : ¬Cut (Cursor.last r)) :
    ∃ u, r = .ok a u ∧ rest u = next := by
  cases r with
  | ok b u =>
      obtain cut | ⟨same, read⟩ := gives
      · exact absurd cut uncut
      · cases same
        exact ⟨u, rfl, read⟩
  | error f u =>
      obtain cut | impossible := gives
      · exact absurd cut uncut
      · cases impossible

theorem Gives.eq_error {f : Fault} {next : List Token} {r : EStateM.Result Fault σ α}
    (gives : Gives Cut (.error f) next r) (uncut : ¬Cut (Cursor.last r)) :
    ∃ u, r = .error f u := by
  cases r with
  | ok b u =>
      obtain cut | ⟨impossible, -⟩ := gives
      · exact absurd cut uncut
      · cases impossible
  | error g u =>
      obtain cut | same := gives
      · exact absurd cut uncut
      · cases same
        exact ⟨u, rfl⟩

theorem Gives.bind {m : Cursor σ α} {f : α → Cursor σ β}
    {e : Except Fault α} {g : α → Except Fault β} {s : σ} {next next' : List Token}
    (first : Gives Cut e next (m.run s)) (keeps : ∀ a, Keeps (fun s t => Cut s → Cut t) (f a))
    (after : ∀ a t, e = .ok a → rest t = next → Gives Cut (g a) next' ((f a).run t)) :
    Gives Cut (e >>= g) next' ((m >>= f).run s) := by
  cases run : m.run s with
  | ok a t =>
      rw [run] at first
      rw [run_bind_ok run]
      obtain cut | ⟨rfl, here⟩ := first
      · exact gives_cut (keeps a t cut)
      · exact after a t rfl here
  | error f t =>
      rw [run] at first
      rw [run_bind_error run]
      obtain cut | rfl := first
      · exact .inl cut
      · exact .inr rfl

theorem gives_lift (e : Except Fault α) (s : σ) :
    Gives Cut e (rest s) ((lift e : Cursor σ α).run s) := by
  cases e with
  | ok a => exact .inr ⟨rfl, rfl⟩
  | error f => exact .inr rfl

theorem gives_expect (Cut : σ → Prop) (m : Separator) {s : σ} {ts : List Token}
    (here : rest s = .mark m :: ts) (settled : Settled ts) :
    Gives Cut (.ok ()) ts ((expect m : Cursor σ Unit).run s) := by
  rw [run_expect, here, List.head?_cons, if_pos rfl]
  exact .inr ⟨rfl, by rw [rest_advanced, here, List.tail_cons, skipSpaces_settled settled]⟩

end Gives

end Formulary
