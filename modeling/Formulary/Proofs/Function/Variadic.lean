import Formulary.Proofs.Fault.Causes

set_option autoImplicit false

namespace Formulary

namespace Operation

theorem meet_total {op : Operation} (other : op.isOrder = false) (a b : Value) :
    ∃ v, op.meet a b = .ok v := by
  rw [meet]
  split
  · exact ⟨a, rfl⟩
  · split
    · exact ⟨b, rfl⟩
    · exact apply_unordered other a b

theorem foldlM_meet_error (op : Operation) {e : Value} (wrong : e.isError = true)
    (vs : List Value) : vs.foldlM op.meet e = .ok e := by
  induction vs with
  | nil => rfl
  | cons v vs ih =>
      have kept : op.meet e v = .ok e := if_pos wrong
      rw [List.foldlM_cons, kept]
      exact ih

theorem foldlM_meet {α : Type} {op : Operation} {made : α → Value} {step : α → Value → α}
    (sound : ∀ x, (made x).isError = false)
    (applies : ∀ x v, op.apply (made x) v = .ok (made (step x v))) (x : α) (vs : List Value) :
    vs.foldlM op.meet (made x) =
      .ok ((vs.find? Value.isError).getD (made (vs.foldl step x))) := by
  induction vs generalizing x with
  | nil => rfl
  | cons v vs ih =>
      rw [List.foldlM_cons, meet, if_neg (by simp [sound])]
      cases wrong : v.isError with
      | true =>
          rw [if_pos rfl, List.find?_cons_of_pos wrong]
          exact foldlM_meet_error op wrong vs
      | false =>
          rw [if_neg (by simp), applies, List.find?_cons_of_neg (by simp [wrong])]
          exact ih (step x v)

variable {α : Type} (g : α → Except Fault Value)

theorem mapM_foldlM_meet {op : Operation} (other : op.isOrder = false) (xs : List α) (a : Value) :
    (do (← xs.mapM g).foldlM op.meet a) = xs.foldlM (fun a x => do op.meet a (← g x)) a := by
  induction xs generalizing a with
  | nil => rfl
  | cons x xs ih =>
      simp only [List.mapM_cons, List.foldlM_cons, bind_assoc, pure_bind]
      congr 1
      funext b
      rcases meet_total other a b with ⟨c, met⟩
      rw [met]
      exact ih c

end Operation

namespace Function

variable {vs : List Value}

theorem refused?_eq {s : Signature} (refuses : ∀ position, s.admitsErrorAt position = false)
    (vs : List Value) : s.refused? vs = vs.find? Value.isError := by
  have placed : ((vs.zipIdx 0).map Prod.fst).find? Value.isError =
      ((vs.zipIdx 0).find? fun p => p.1.isError).map Prod.fst := List.find?_map
  rw [List.zipIdx_map_fst] at placed
  rw [placed, Signature.refused?]
  congr 2
  funext p
  dsimp only
  rw [refuses, Bool.not_false, Bool.and_true]

theorem value_repeated {name canonical : String} {type returns : TypeTag} {body : Body}
    (found : builtIn.find? name = some ⟨canonical, repeated type, returns, body⟩)
    (refuses : type ≠ .all) (given : vs ≠ []) {v : Value} (run : body vs = .ok v) :
    value name vs = .ok ((vs.find? Value.isError).getD v) := by
  rw [value, found]
  dsimp only
  rw [Signature.value, refused?_eq (admitsErrorAt_repeated refuses)]
  cases vs.find? Value.isError with
  | some e => rfl
  | none =>
      have enough : ¬vs.length < 1 := Nat.not_lt.mpr (List.length_pos_iff.mpr given)
      exact (if_neg enough).trans run

theorem value_concat (given : vs ≠ []) :
    value "CONCAT" vs = vs.foldlM Operation.concat.meet (.string "") := by
  have fold : vs.foldlM Operation.concat.meet (.string "") =
      .ok ((vs.find? Value.isError).getD (.string (vs.foldl (fun s v => s ++ v.asText) ""))) :=
    Operation.foldlM_meet (fun _ => rfl) (fun _ _ => rfl) "" vs
  have texts : String.join (vs.map Value.asText) = vs.foldl (fun s v => s ++ v.asText) "" :=
    List.foldl_map
  rw [value_repeated rfl (by decide) given rfl, fold, ← texts]

theorem value_prod (given : vs ≠ []) :
    value "PROD" vs = vs.foldlM (Operation.multiply .times).meet (.number 1.0) := by
  have fold : vs.foldlM (Operation.multiply .times).meet (.number 1.0) =
      .ok ((vs.find? Value.isError).getD (.number (vs.foldl (fun x v => x * v.asNumber) 1.0))) :=
    Operation.foldlM_meet (fun _ => rfl) (fun _ _ => rfl) 1.0 vs
  have factors : (numbers vs).foldl (· * ·) 1.0 = vs.foldl (fun x v => x * v.asNumber) 1.0 :=
    List.foldl_map
  rw [value_repeated rfl (by decide) given rfl, fold, ← factors]

theorem mapM_value {α : Type} (g : α → Except Fault Value) {name : String} {op : Operation}
    (other : op.isOrder = false) {start : Value}
    (repeats : ∀ {vs : List Value}, vs ≠ [] → value name vs = vs.foldlM op.meet start)
    {xs : List α} (given : xs ≠ []) :
    (do value name (← xs.mapM g)) = xs.foldlM (fun a x => do op.meet a (← g x)) start := by
  rw [← Operation.mapM_foldlM_meet g other]
  cases xs with
  | nil => exact absurd rfl given
  | cons x xs =>
      simp only [List.mapM_cons, bind_assoc, pure_bind, repeats (List.cons_ne_nil _ _)]

end Function

end Formulary
