import Mathlib.Data.List.Nodup
import Formulary.Proofs.Function.Matching
import Formulary.Proofs.Text.Upper

set_option autoImplicit false

namespace Formulary

def Signature.Made (s : Signature) : Prop :=
  ∃ name parameters returns body, make name parameters returns body = .ok s

theorem Signature.Made.upper_name {s : Signature} (made : s.Made) : Text.upper s.name = s.name := by
  obtain ⟨name, parameters, returns, body, made⟩ := made
  obtain ⟨-, rfl⟩ := make_eq_ok.mp made
  exact Text.upper_upper name

namespace Catalog

theorem addTo_eq_ok {known : List Signature} (distinct : (known.map Signature.name).Nodup)
    {signatures all : List Signature} :
    addTo known signatures = .ok all ↔
      all = known ++ signatures ∧ ((known ++ signatures).map Signature.name).Nodup := by
  induction signatures generalizing known with
  | nil => simp [addTo, distinct, eq_comm]
  | cons s rest ih =>
      rw [addTo]
      by_cases taken : s.name ∈ known.map Signature.name
      · have repeated : ¬((known ++ s :: rest).map Signature.name).Nodup := by
          rw [List.map_append, List.map_cons]
          intro fresh
          exact (List.nodup_append.mp fresh).2.2 s.name taken s.name (List.mem_cons_self ..) rfl
        rw [if_pos (by simpa using taken)]
        exact iff_of_false nofun fun ⟨_, fresh⟩ => repeated fresh
      · have distinct' : ((known ++ [s]).map Signature.name).Nodup := by
          rw [List.map_append, List.nodup_append]
          refine ⟨distinct, by simp, ?_⟩
          rintro name mem _ single rfl
          exact taken (List.mem_singleton.mp single ▸ mem)
        rw [if_neg (by simpa using taken), ih distinct', List.append_assoc, List.singleton_append]

theorem make_eq_ok {signatures : List Signature} {c : Catalog} :
    make signatures = .ok c ↔ c.signatures = signatures ∧ c.names.Nodup := by
  have added := @addTo_eq_ok [] List.nodup_nil signatures
  rw [List.nil_append] at added
  rw [make, names]
  cases run : addTo [] signatures with
  | error e =>
      have repeated : ¬(signatures.map Signature.name).Nodup := fun distinct => by
        cases run.symm.trans (added.mpr ⟨rfl, distinct⟩)
      constructor
      · nofun
      · rintro ⟨rfl, distinct⟩
        exact absurd distinct repeated
  | ok all =>
      obtain ⟨rfl, distinct⟩ := added.mp run
      constructor
      · rintro ⟨⟩
        exact ⟨rfl, distinct⟩
      · rintro ⟨rfl, -⟩
        rfl

theorem make_eq_error {signatures : List Signature} :
    (∃ e, make signatures = .error e) ↔ ¬(signatures.map Signature.name).Nodup := by
  cases run : make signatures with
  | error e =>
      refine iff_of_true ⟨e, rfl⟩ fun distinct => ?_
      cases run.symm.trans (make_eq_ok.mpr ⟨rfl, distinct⟩ : make signatures = .ok ⟨signatures⟩)
  | ok c =>
      obtain ⟨rfl, distinct⟩ := make_eq_ok.mp run
      exact iff_of_false nofun (not_not_intro distinct)

theorem find?_eq_some {c : Catalog} (distinct : c.names.Nodup) {name : String} {s : Signature} :
    c.find? name = some s ↔ s ∈ c.signatures ∧ s.name = Text.upper name := by
  rw [find?]
  constructor
  · intro found
    exact ⟨List.mem_of_find?_eq_some found, by simpa using List.find?_some found⟩
  · rintro ⟨mem, same⟩
    cases found : c.signatures.find? (·.name == Text.upper name) with
    | none => exact absurd same (by simpa using List.find?_eq_none.mp found s mem)
    | some t =>
        have same' : t.name = Text.upper name := by simpa using List.find?_some found
        rw [List.inj_on_of_nodup_map distinct (List.mem_of_find?_eq_some found) mem
          (same'.trans same.symm)]

theorem contains_eq (c : Catalog) (name : String) : c.contains name = (c.find? name).isSome := by
  rw [contains, find?, Bool.eq_iff_iff, List.find?_isSome]
  simp [names]

theorem find?_congr (c : Catalog) {name other : String}
    (same : Text.upper other = Text.upper name) : c.find? other = c.find? name := by
  rw [find?, find?, same]

theorem demand_eq_ok {c : Catalog} {name : String} {s : Signature} :
    c.demand name = .ok s ↔ c.find? name = some s := by
  rw [demand]
  cases c.find? name <;> simp

theorem demand_eq_error {c : Catalog} {name : String} :
    c.demand name = .error name ↔ c.find? name = none := by
  rw [demand]
  cases c.find? name <;> simp

end Catalog

def Clash (signatures : List Signature) : Prop :=
  ∃ (i j : Nat) (s t : Signature), i < j ∧ signatures[i]? = some s ∧ signatures[j]? = some t ∧
    Text.upper s.name = Text.upper t.name

theorem clash_iff {signatures : List Signature} (made : ∀ s ∈ signatures, s.Made) :
    Clash signatures ↔ ¬(signatures.map Signature.name).Nodup := by
  have stored : ∀ (i : Nat) (s : Signature), signatures[i]? = some s → Text.upper s.name = s.name :=
    fun i s found => (made s (List.mem_of_getElem? found)).upper_name
  rw [List.nodup_iff_getElem?_ne_getElem?]
  simp only [not_forall, List.length_map, List.getElem?_map, ne_eq, not_not]
  constructor
  · rintro ⟨i, j, s, t, before, left, right, same⟩
    rw [stored i s left, stored j t right] at same
    refine ⟨i, j, before, (List.getElem?_eq_some_iff.mp right).1, ?_⟩
    rw [left, right, Option.map_some, Option.map_some, same]
  · rintro ⟨i, j, before, inside, same⟩
    have left := List.getElem?_eq_getElem (Nat.lt_trans before inside)
    have right := List.getElem?_eq_getElem inside
    refine ⟨i, j, _, _, before, left, right, ?_⟩
    rw [left, right] at same
    exact congrArg Text.upper (Option.some.inj same)

end Formulary
