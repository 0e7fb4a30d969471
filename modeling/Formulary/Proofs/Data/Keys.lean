import Formulary.Data.Environment
import Formulary.Data.Overlay
import Formulary.Proofs.Data.Identity
import Formulary.Proofs.Data.Outcome
import Formulary.Yaml.Content

set_option autoImplicit false

namespace Formulary

theorem Scalar.sameKey_text_iff {key : Scalar} {name : String} :
    key.sameKey (.text name) = true ↔ key = .text name := by
  cases key <;> simp [sameKey, integer?]

namespace Entries

theorem get?_cons (k : Scalar) (d : Datum) (es : Entries) (key : Scalar) :
    get? ((k, d) :: es) key = if k.sameKey key then some d else get? es key := by
  cases same : k.sameKey key <;> simp [get?, same]

theorem get?_congr {a b : Scalar} (same : a.sameKey b = true) (es : Entries) :
    get? es a = get? es b := by
  have alike (key : Scalar) : key.sameKey a = key.sameKey b := by
    rw [key.sameKey_comm, key.sameKey_comm, Scalar.sameKey_congr same]
  simp only [get?, alike]

theorem get?_put (es : Entries) (k : Scalar) (d : Datum) (key : Scalar) :
    get? (put es k d) key = if k.sameKey key then some d else get? es key := by
  induction es with
  | nil => exact get?_cons k d [] key
  | cons e es ih =>
      obtain ⟨k', old⟩ := e
      rw [put]
      split
      · next here =>
          rw [get?_cons, get?_cons, Scalar.sameKey_congr here]
          split <;> rfl
      · next differs =>
          rw [get?_cons, get?_cons, ih]
          by_cases first : k'.sameKey key = true
          · have other : k.sameKey key = false := by
              rw [← Bool.not_eq_true, k.sameKey_comm, ← Scalar.sameKey_congr first]
              exact differs
            simp [first, other]
          · simp [first]

theorem mem_of_get? {es : Entries} {name : String} {d : Datum}
    (found : es.get? (.text name) = some d) : (.text name, d) ∈ es := by
  obtain ⟨⟨key, d'⟩, first, rfl⟩ := Option.map_eq_some_iff.mp found
  have same := List.find?_some first
  rw [← Scalar.sameKey_text_iff.mp same]
  exact List.mem_of_find?_eq_some first

theorem get?_of_apart {es : Entries} {key : Scalar}
    (apart : ∀ e ∈ es, key.sameKey e.1 = false) : get? es key = none := by
  induction es with
  | nil => rfl
  | cons e es ih =>
      obtain ⟨first, others⟩ := List.forall_mem_cons.mp apart
      rw [get?_cons, Scalar.sameKey_comm, first, ih others]
      rfl

def named? (es : Entries) (name : String) : Option Datum := get? es (.text name)

@[simp] theorem named?_nil (name : String) : named? [] name = none := rfl

@[simp] theorem named?_cons_self (name : String) (d : Datum) (es : Entries) :
    named? ((.text name, d) :: es) name = some d := by
  simp [named?, get?]

theorem named?_cons_other {key : Scalar} {name : String} (other : key ≠ .text name) (d : Datum)
    (es : Entries) : named? ((key, d) :: es) name = named? es name := by
  rw [named?, get?_cons, if_neg (mt Scalar.sameKey_text_iff.mp other), ← named?]

end Entries

mutual

def Datum.Keyed : Datum → Prop
  | .map es => Entries.Keyed es
  | _ => True

def Entries.Keyed : Entries → Prop
  | [] => True
  | (key, d) :: es => (∀ e ∈ es, key.sameKey e.1 = false) ∧ d.Keyed ∧ Entries.Keyed es

end

def Datum.IsLeaf : Datum → Prop
  | .map _ => False
  | _ => True

theorem Datum.IsLeaf.keyed {d : Datum} (leaf : d.IsLeaf) : d.Keyed := by
  cases d with
  | map es => exact leaf.elim
  | _ => trivial

namespace Entries

section Keyed

theorem key_put {es : Entries} {key : Scalar} {d : Datum} {e : Scalar × Datum}
    (mem : e ∈ put es key d) : e.1 = key ∨ ∃ old ∈ es, e.1 = old.1 := by
  induction es with
  | nil =>
      obtain rfl : e = (key, d) := by simpa [put] using mem
      exact .inl rfl
  | cons first es ih =>
      obtain ⟨key', old⟩ := first
      rw [put] at mem
      split at mem
      · obtain rfl | mem := List.mem_cons.mp mem
        · exact .inr ⟨_, List.mem_cons_self .., rfl⟩
        · exact .inr ⟨e, List.mem_cons_of_mem _ mem, rfl⟩
      · obtain rfl | mem := List.mem_cons.mp mem
        · exact .inr ⟨_, List.mem_cons_self .., rfl⟩
        · obtain new | ⟨old, mem, same⟩ := ih mem
          · exact .inl new
          · exact .inr ⟨old, List.mem_cons_of_mem _ mem, same⟩

theorem keyed_put {es : Entries} (keyed : Keyed es) (key : Scalar) {d : Datum} (inside : d.Keyed) :
    Keyed (put es key d) := by
  induction es with
  | nil => exact ⟨by simp, inside, trivial⟩
  | cons e es ih =>
      obtain ⟨key', old⟩ := e
      obtain ⟨apart, first, others⟩ := keyed
      rw [put]
      split
      · exact ⟨apart, inside, others⟩
      · rename_i differs
        refine ⟨fun e mem => ?_, first, ih others⟩
        obtain new | ⟨old, mem, same⟩ := key_put mem
        · rw [new]
          simpa using differs
        · rw [same]
          exact apart old mem

theorem keyed_ofList {items : List (Scalar × Datum)} (inside : ∀ e ∈ items, e.2.Keyed) :
    Keyed (ofList items) := by
  exact List.foldlRecOn items _ trivial fun es keyed e mem => keyed_put keyed e.1 (inside e mem)

theorem keyed_of_get? {es : Entries} (keyed : Keyed es) {key : Scalar} {d : Datum}
    (found : es.get? key = some d) : d.Keyed := by
  induction es with
  | nil => cases found
  | cons e es ih =>
      obtain ⟨-, first, others⟩ := keyed
      rw [get?_cons] at found
      split at found
      · cases found
        exact first
      · exact ih others found

theorem get?_of_mem {es : Entries} (keyed : Keyed es) {e : Scalar × Datum} (mem : e ∈ es) :
    es.get? e.1 = some e.2 := by
  induction es with
  | nil => cases mem
  | cons first es ih =>
      obtain ⟨apart, -, others⟩ := keyed
      rw [get?_cons]
      obtain rfl | mem := List.mem_cons.mp mem
      · simp
      · simp [apart e mem, ih others mem]

end Keyed

section Overlay

theorem get?_overlay (base : Entries) {top : Entries} (keyed : Keyed top) (key : Scalar) :
    (overlay base top).get? key =
      match top.get? key with
      | none => base.get? key
      | some d => some (Datum.overlay ((base.get? key).getD .null) d) := by
  induction top generalizing base with
  | nil => rfl
  | cons e top ih =>
      obtain ⟨k, d⟩ := e
      obtain ⟨apart, -, others⟩ := keyed
      rw [overlay, ih _ others, get?_cons, get?_put]
      by_cases here : k.sameKey key = true
      · rw [← get?_congr here top, ← get?_congr here base, get?_of_apart apart, if_pos here,
          if_pos here]
      · rw [if_neg here, if_neg here]

theorem named?_overlay (base : Entries) {top : Entries} (keyed : Keyed top) (name : String) :
    (overlay base top).named? name =
      match top.named? name with
      | none => base.named? name
      | some d => some (Datum.overlay ((base.named? name).getD .null) d) :=
  get?_overlay base keyed (.text name)

end Overlay

section Nested

theorem under_text (es : Entries) (name : String) :
    under es (.text name) = match es.named? name with
      | some (.map inner) => inner
      | _ => [] := rfl

theorem keyed_under {es : Entries} (keyed : Keyed es) (name : String) :
    Keyed (under es (.text name)) := by
  rw [under_text]
  split
  · rename_i found
    exact keyed_of_get? keyed found
  · trivial

theorem keyed_place {es : Entries} (keyed : Keyed es) (name : String) (names : List String)
    {d : Datum} (inside : d.Keyed) : Keyed (place es name names d) := by
  induction names generalizing es name with
  | nil => exact keyed_put keyed _ inside
  | cons next names ih => exact keyed_put keyed _ (ih (keyed_under keyed name) next)

theorem keyed_placeKey (separator : List Char) {es : Entries} (keyed : Keyed es) (key : String)
    {d : Datum} (inside : d.Keyed) : Keyed (placeKey separator es key d) := by
  rw [placeKey]
  split
  · exact keyed
  · exact keyed_place keyed _ _ inside

theorem keyed_nest? {separator : String} {items : List (String × Datum)} {es : Entries}
    (nested : nest? separator items = some es) (inside : ∀ item ∈ items, item.2.Keyed) :
    Keyed es := by
  rw [nest?] at nested
  split at nested
  · cases nested
  · cases nested
    exact List.foldlRecOn items _ trivial fun es keyed item mem =>
      keyed_placeKey _ keyed item.1 (inside item mem)

end Nested

end Entries

namespace Environment

theorem isLeaf_datum? {homes : Path.Homes} {text : String} {d : Datum}
    (read : datum? homes text = some d) :
    d.IsLeaf := by
  rw [datum?] at read
  split at read
  · cases read
    trivial
  split at read
  · cases read
    trivial
  split at read
  · cases read
    trivial
  split at read
  · obtain ⟨p, -, rfl⟩ := Option.map_eq_some_iff.mp read
    trivial
  · cases read
    trivial

theorem keyed_entries? {homes : Path.Homes} {start : String} {env : Environment}
    {es : Entries} (read : env.entries? homes start = some es) : Entries.Keyed es := by
  rw [entries?, Option.bind_eq_bind, Option.bind_eq_some_iff] at read
  obtain ⟨items, each, nested⟩ := read
  refine Entries.keyed_nest? nested fun item mem => ?_
  obtain ⟨own, given, mem⟩ := List.mem_flatten.mp mem
  obtain ⟨v, -, spoken⟩ := given_of_mapM each given
  split at spoken
  · cases spoken
    cases mem
  · obtain ⟨d, meant, rfl⟩ := Option.map_eq_some_iff.mp spoken
    obtain rfl := List.mem_singleton.mp mem
    exact (isLeaf_datum? meant).keyed

end Environment

namespace Yaml

namespace Built

theorem at_eq_ok {α : Type} {depth : Nat} {x : Except Flaw α} {a : α} :
    at_ depth x = .ok a ↔ x = .ok a := mapError_eq_ok

theorem both_eq_ok {α β γ : Type} {f : α → β → γ} {a : Built α} {b : Built β} {c : γ} :
    both f a b = .ok c ↔ ∃ x y, a = .ok x ∧ b = .ok y ∧ f x y = c := by
  cases a <;> cases b <;> simp [both]

theorem given_of_foldr {α β : Type} {f : α → Built β} {xs : List α} {ys : List β}
    (all : xs.foldr (fun x rest => both List.cons (f x) rest) (.ok []) = .ok ys) {y : β}
    (mem : y ∈ ys) : ∃ x ∈ xs, f x = .ok y := by
  induction xs generalizing ys with
  | nil =>
      cases all
      cases mem
  | cons x xs ih =>
      obtain ⟨first, others, given, rest, rfl⟩ := both_eq_ok.mp all
      obtain rfl | mem := List.mem_cons.mp mem
      · exact ⟨x, List.mem_cons_self .., given⟩
      · obtain ⟨x', mem', given'⟩ := ih rest mem
        exact ⟨x', List.mem_cons_of_mem _ mem', given'⟩

end Built

namespace Node

theorem keyed_scalar {depth : Nat} {n : Node} {d : Datum}
    (built : Built.at_ depth (.scalar <$> n.scalar?) = .ok d) : d.Keyed := by
  obtain ⟨s, -, rfl⟩ := map_eq_ok.mp (Built.at_eq_ok.mp built)
  trivial

theorem keyed_list {α : Type} {items : Built α} {read : α → Built (List Datum)} {d : Datum}
    (built : (do Datum.list <$> read (← items)) = .ok d) : d.Keyed := by
  obtain ⟨found, -, built⟩ := bind_eq_ok.mp built
  obtain ⟨ds, -, rfl⟩ := map_eq_ok.mp built
  trivial

-- The induction is on the height: what a merge takes in is no part of the node.
theorem keyed_build {height depth : Nat} {n : Node} {d : Datum}
    (built : build height depth n = .ok d) : d.Keyed := by
  induction height generalizing depth n d with
  | zero => exact keyed_scalar built
  | succ height ih =>
      rw [build] at built
      split at built
      · exact keyed_list built
      · exact keyed_list built
      · exact keyed_list built
      · obtain ⟨pairs, -, built⟩ := bind_eq_ok.mp built
        obtain ⟨entries, each, built⟩ := bind_eq_ok.mp built
        cases built
        refine Entries.keyed_ofList fun e mem => ?_
        obtain ⟨p, -, entry⟩ := Built.given_of_foldr each mem
        obtain ⟨key, inner, -, inside, rfl⟩ := Built.both_eq_ok.mp entry
        exact ih inside
      · obtain ⟨pairs, -, built⟩ := bind_eq_ok.mp built
        obtain ⟨entries, -, built⟩ := bind_eq_ok.mp built
        cases built
        trivial
      · exact keyed_scalar built

end Node

theorem keyed_load {text : List Char} {d : Datum} (read : load text = .ok d) : d.Keyed := by
  obtain ⟨root, -, read⟩ := bind_eq_ok.mp read
  cases root with
  | none =>
      cases read
      trivial
  | some n => exact Node.keyed_build (mapError_eq_ok.mp read)

end Yaml

end Formulary
