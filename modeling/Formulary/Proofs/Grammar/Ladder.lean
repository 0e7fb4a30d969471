import Formulary.Proofs.Grammar.Tree
import Formulary.Proofs.Reading.Depth

set_option autoImplicit false

namespace Formulary

open Tape Rule

namespace Operation

def ofMark? : Separator → Option Operation
  | .equal => some (.compare .equal)
  | .notEqual => some (.compare .notEqual)
  | .less => some (.compare .less)
  | .lessEqual => some (.compare .lessEqual)
  | .greater => some (.compare .greater)
  | .greaterEqual => some (.compare .greaterEqual)
  | .ampersand => some .concat
  | .plus => some (.add .plus)
  | .minus => some (.add .minus)
  | .times => some (.multiply .times)
  | .divide => some (.multiply .divide)
  | .caret => some .power
  | _ => none

theorem ofMark?_mark (op : Operation) : ofMark? op.mark = some op := by
  rcases op with ⟨_ | _⟩ | _ | ⟨_ | _⟩ | ⟨_ | _⟩ | _ <;> rfl

theorem mark_of_ofMark? {m : Separator} {op : Operation} (found : ofMark? m = some op) :
    m = op.mark := by
  cases m <;> cases found <;> rfl

theorem mark_injective {op op' : Operation} (same : op.mark = op'.mark) : op = op' := by
  have found := ofMark?_mark op
  rw [same, ofMark?_mark] at found
  exact (Option.some.inj found).symm

def on (k : Nat) : Token → Option Operation
  | .mark m => (ofMark? m).filter (·.tier == k)
  | .word _ => none

theorem on_eq_some {k : Nat} {t : Token} {op : Operation} :
    on k t = some op ↔ t = .mark op.mark ∧ op.tier = k := by
  constructor
  · intro found
    cases t with
    | word w => cases found
    | mark m =>
        obtain ⟨known, tier⟩ := Option.filter_eq_some_iff.mp found
        exact ⟨by rw [mark_of_ofMark? known], by simpa using tier⟩
  · rintro ⟨rfl, rfl⟩
    simp [on, ofMark?_mark]

theorem head_on {k : Nat} {ts : List Token} :
    ts.head?.bind (on k) = none ↔
      ∀ op : Operation, op.tier = k → ts.head? ≠ some (.mark op.mark) := by
  rw [Option.bind_eq_none_iff]
  constructor
  · intro none op tier head
    have found := none _ head
    rw [on_eq_some.mpr ⟨rfl, tier⟩] at found
    cases found
  · intro others t head
    cases found : on k t with
    | none => rfl
    | some op =>
        obtain ⟨rfl, tier⟩ := on_eq_some.mp found
        exact absurd head (others op tier)

theorem ofToken?_on (t : Token) : on 0 t = (Comparison.ofToken? t).map .compare := by
  cases t with
  | word w => rfl
  | mark m => cases m <;> rfl

theorem isConcat?_on (t : Token) : on 1 t = (Operator.isConcat? t).map fun _ => .concat := by
  cases t with
  | word w => rfl
  | mark m => cases m <;> rfl

theorem additive?_on (t : Token) : on 2 t = (Operator.additive? t).map .add := by
  cases t with
  | word w => rfl
  | mark m => cases m <;> rfl

theorem multiplicative?_on (t : Token) :
    on 3 t = (Operator.multiplicative? t).map .multiply := by
  cases t with
  | word w => rfl
  | mark m => cases m <;> rfl

end Operation

namespace Rule

variable {σ : Type} [Tape σ] {α : Type}

section Rename

variable {operator? : Token → Option α} {operation? : Token → Option Operation}
  (combine : α → Value → Value → Except Fault Value) {name : α → Operation}
  (tokens : ∀ t, operation? t = (operator? t).map name)
  (values : ∀ op, (name op).apply = combine op) (operand : Cursor σ Value)

include tokens values

theorem chain_rename (turns : Nat) (a : Value) :
    chain operand operator? combine turns a = chain operand operation? Operation.apply turns a := by
  induction turns generalizing a with
  | zero => rfl
  | succ turns ih =>
      simp only [chain]
      congr 1
      funext found
      have same : found.bind operation? = (found.bind operator?).map name := by
        cases found with
        | none => rfl
        | some t => exact tokens t
      rw [same]
      cases found.bind operator? with
      | none => rfl
      | some op => simp only [Option.map_some, join, values, ih]

theorem tier_rename :
    tier operator? combine operand = tier operation? Operation.apply operand := by
  simp only [tier, chain_rename combine tokens values]

end Rename

def rung (setting : Setting) (k : Nat) : Cursor σ Value :=
  if k < 4 then tier (Operation.on k) Operation.apply (rung setting (k + 1))
  else if k = 4 then power (rung setting 5)
  else factor (atom setting (whole setting))
termination_by 5 - k

theorem rungs_from_five {motive : Nat → Prop} (five : motive 5) (four : motive 5 → motive 4)
    (lower : ∀ k < 4, motive (k + 1) → motive k) {k : Nat} (le : k ≤ 5) : motive k := by
  have down (j : Nat) (le : j ≤ 5) : motive (5 - j) := by
    induction j with
    | zero => exact five
    | succ j ih =>
        have above := ih (by omega)
        by_cases top : j = 0
        · subst top
          exact four above
        · have same : 5 - j = 5 - (j + 1) + 1 := by omega
          rw [same] at above
          exact lower _ (by omega) above
  have same : 5 - (5 - k) = k := by omega
  exact same ▸ down (5 - k) (by omega)

/-- Only operands hand what is inside them to a lower tier, and that is fewer tokens than they have
themselves. So what holds of operands and comes down the tiers holds of all tiers. -/
theorem rung_induction {motive : Nat → Nat → Prop}
    (operand : ∀ n, (∀ m < n, ∀ k ≤ 5, motive k m) → motive 5 n)
    (power : ∀ n, (∀ m < n, motive 4 m) → motive 5 n → motive 4 n)
    (lower : ∀ n, ∀ k < 4, motive (k + 1) n → motive k n) (n k : Nat) (le : k ≤ 5) :
    motive k n := by
  induction n using Nat.strongRecOn generalizing k with
  | ind n below =>
    apply rungs_from_five (motive := fun k => motive k n) _ _ _ le
    · exact operand n below
    · exact power n fun m less => below m less 4 (by decide)
    · exact lower n

theorem rung_tier (setting : Setting) {k : Nat} (low : k < 4) :
    (rung setting k : Cursor σ Value) =
      tier (Operation.on k) Operation.apply (rung setting (k + 1)) := by
  rw [rung, if_pos low]

theorem rung_four (setting : Setting) :
    (rung setting 4 : Cursor σ Value) = power (rung setting 5) := by
  rw [rung]; rfl

theorem rung_five (setting : Setting) :
    (rung setting 5 : Cursor σ Value) = factor (atom setting (whole setting)) := by
  rw [rung]; rfl

theorem rung_zero (setting : Setting) : (rung setting 0 : Cursor σ Value) = whole setting := by
  rw [whole_eq, comparison, tier_rename Comparison.apply Operation.ofToken?_on fun _ => rfl,
    tier_rename Operator.concat Operation.isConcat?_on fun _ => rfl,
    tier_rename Operator.add Operation.additive?_on fun _ => rfl,
    tier_rename Operator.multiply Operation.multiplicative?_on fun _ => rfl,
    rung_tier setting (by decide), rung_tier setting (by decide), rung_tier setting (by decide),
    rung_tier setting (by decide), rung_four, rung_five]

theorem keeps_rung {R : σ → σ → Prop} (c : Course R) (setting : Setting) {k : Nat} (le : k ≤ 5) :
    Keeps R (rung setting k) := by
  apply rungs_from_five (motive := fun k => Keeps R (rung setting k)) _ _ _ le
  · rw [rung_five]
    exact keeps_factor c (keeps_atom c (keeps_whole c setting) setting)
  · intro five
    rw [rung_four]
    exact keeps_power c five
  · intro k low above
    rw [rung_tier setting low]
    exact keeps_tier c above _ _

theorem shrinks_rung (setting : Setting) {k : Nat} (le : k ≤ 5) :
    Shrinks (rung setting k : Cursor σ Value) := keeps_rung course_suffix setting le

end Rule

end Formulary
