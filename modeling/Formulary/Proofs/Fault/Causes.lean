import Formulary.Proofs.Function.Bodies
import Formulary.Proofs.Grammar.Tree

set_option autoImplicit false

namespace Formulary

def Fault.isSyntax : Fault → Bool
  | .unexpected _ _ => true
  | _ => false

namespace Comparison

def isOrder : Comparison → Bool
  | .equal | .notEqual => false
  | .less | .lessEqual | .greater | .greaterEqual => true

theorem holds_of_order {c : Comparison} (order : c.isOrder = true) (a b : Value) :
    c.holds a b = match textOf? a, textOf? b with
      | some s, some t => .ok (c.texts s t)
      | none, none => .ok (c.numbers a.asNumber b.asNumber)
      | _, _ => .error .unordered := by
  cases c <;> first | rfl | cases order

theorem apply_eq_error {c : Comparison} {a b : Value} {f : Fault} :
    c.apply a b = .error f ↔
      f = .unordered ∧ c.isOrder = true ∧ (textOf? a).isSome ≠ (textOf? b).isSome := by
  by_cases order : c.isOrder = true
  · rw [apply, holds_of_order order]
    cases textOf? a <;> cases textOf? b <;> simp [Except.map, order, eq_comm]
  · cases c <;> simp_all [apply, holds, isOrder, Except.map]

end Comparison

namespace Operation

def isOrder : Operation → Bool
  | .compare c => c.isOrder
  | .concat | .add _ | .multiply _ | .power => false

theorem apply_unordered {op : Operation} (other : op.isOrder = false) (a b : Value) :
    ∃ v, op.apply a b = .ok v := by
  cases op with
  | compare c => cases c <;> first | exact ⟨_, rfl⟩ | cases other
  | concat => exact ⟨_, rfl⟩
  | add o => cases o <;> exact ⟨_, rfl⟩
  | multiply o => exact Operator.multiply_ok o a b
  | power => exact Operator.raise_ok () a b

structure Unanswered (op : Operation) (a b : Value) : Prop where
  order : op.isOrder = true
  mixed : (Comparison.textOf? a).isSome ≠ (Comparison.textOf? b).isSome

theorem apply_eq_error {op : Operation} {a b : Value} {f : Fault} :
    op.apply a b = .error f ↔ f = .unordered ∧ op.Unanswered a b := by
  by_cases order : op.isOrder = true
  · cases op with
    | compare c =>
        rw [apply, Comparison.apply_eq_error]
        exact and_congr_right fun _ => ⟨fun h => ⟨h.1, h.2⟩, fun h => ⟨h.1, h.2⟩⟩
    | _ => cases order
  · obtain ⟨v, answered⟩ := apply_unordered (Bool.not_eq_true _ ▸ order) a b
    constructor
    · intro fails
      rw [answered] at fails
      cases fails
    · exact fun unanswered => absurd unanswered.2.order order

end Operation

/-- Data that are no value of a formula: collections, paths, and integers beyond the doubles. -/
inductive Datum.Foreign : Datum → Prop where
  | list (items : List Datum) : Foreign (.list items)
  | map (entries : List (Scalar × Datum)) : Foreign (.map entries)
  | path (p : String) : Foreign (.path p)
  | huge {n : Int} (beyond : Decimal.floatOfInt? n = none) : Foreign (.integer n)
  | date (d : Date) : Foreign (.scalar (.date d))
  | moment (m : Moment) : Foreign (.scalar (.moment m))
  | bytes (bs : List UInt8) : Foreign (.scalar (.bytes bs))
  | pair (first second : Datum) : Foreign (.pair first second)
  | set (items : List Scalar) : Foreign (.set items)

theorem Datum.toValue_eq_error {d : Datum} {f : Fault} (fails : d.toValue = .error f) :
    f.isSyntax = false ∧ (d.isNull = true ∨ d.Foreign) := by
  cases d with
  | scalar s =>
      cases s with
      | null =>
          cases fails
          exact ⟨rfl, .inl rfl⟩
      | integer n =>
          simp only [toValue] at fails
          split at fails
          · cases fails
          · rename_i beyond
            cases fails
            exact ⟨rfl, .inr (.huge beyond)⟩
      | date d =>
          cases fails
          exact ⟨rfl, .inr (.date d)⟩
      | moment m =>
          cases fails
          exact ⟨rfl, .inr (.moment m)⟩
      | bytes bs =>
          cases fails
          exact ⟨rfl, .inr (.bytes bs)⟩
      | boolean | float | text => cases fails
  | value v => cases fails
  | _ =>
      cases fails
      exact ⟨rfl, .inr (by constructor)⟩

theorem Datum.Foreign.given {d : Datum} (foreign : d.Foreign) : d.isNull = false := by
  cases foreign <;> rfl

theorem Scope.read_eq_error {scope : Scope} {x : String} {f : Fault} :
    scope.read x = .error f ↔ ∃ d, scope.lookup x = some d ∧ d.Foreign ∧ d.toValue = .error f := by
  rw [read]
  cases bound : scope.lookup x with
  | none => simp
  | some d =>
      dsimp only
      constructor
      · intro fails
        split at fails
        · cases fails
        · rename_i given
          obtain null | foreign := (Datum.toValue_eq_error fails).2
          · exact absurd null given
          · exact ⟨d, rfl, foreign, fails⟩
      · rintro ⟨_, same, foreign, fails⟩
        cases same
        rw [if_neg (by simp [foreign.given]), fails]

namespace Rule

theorem join_eq_error {op : Operation} {a b : Value} {f : Fault} :
    join Operation.apply op a b = .error f ↔
      f = .unordered ∧ a.isError = false ∧ b.isError = false ∧ op.Unanswered a b := by
  rw [join]
  split
  · simp_all
  · split
    · simp_all
    · simp_all [Operation.apply_eq_error]

theorem answer_eq_error {name : String} {args : List Value} {refused : Option Value} {f : Fault}
    (fails : answer (Function.builtIn.find? name) args refused = .error f) :
    refused = none ∧ ∃ s, Function.builtIn.find? name = some s ∧ s.arity ≤ args.length ∧
      Function.Failure s args f := by
  cases known : Function.builtIn.find? name with
  | none =>
      rw [known] at fails
      cases fails
  | some s =>
      rw [known] at fails
      cases refused with
      | some e => cases fails
      | none =>
          simp only [answer] at fails
          split at fails
          · cases fails
          · rename_i enough
            exact ⟨rfl, s, rfl, Nat.le_of_not_lt enough,
              Function.failure_of_body (Function.mem_of_find? known) fails⟩

end Rule

end Formulary
