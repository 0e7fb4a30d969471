import Formulary.Data.Nesting
import Formulary.Proofs.Data.Merged
import Formulary.Proofs.Data.Paths
import Mathlib.Data.List.Induction

set_option autoImplicit false

namespace Formulary

namespace Datum

def along : List String → Datum → Datum
  | [], d => d
  | name :: names, d => .map [(.text name, along names d)]

section Along

variable {d : Datum} (leaf : d.IsLeaf)
include leaf

theorem at?_along_leaf (names : List String) (keys : List Scalar) (found : Datum) :
    (along names d).at? keys = some found ∧ found.IsLeaf ↔
      keys = names.map .text ∧ found = d := by
  induction names generalizing keys with
  | nil =>
      cases keys with
      | nil =>
          simp only [along, at?_nil, Option.some.injEq, List.map_nil, true_and]
          constructor
          · rintro ⟨rfl, -⟩
            rfl
          · rintro rfl
            exact ⟨rfl, leaf⟩
      | cons key keys => simp [along, at?_leaf leaf]
  | cons name names ih =>
      cases keys with
      | nil =>
          simp only [along, at?_nil, Option.some.injEq, List.map_cons, reduceCtorEq, false_and,
            iff_false]
          rintro ⟨rfl, isLeaf⟩
          exact isLeaf
      | cons key keys =>
          rw [along, at?_map, Entries.get?_cons, Scalar.sameKey_comm]
          by_cases here : key = .text name
          · subst here
            simp [ih]
          · rw [if_neg (mt Scalar.sameKey_text_iff.mp here)]
            simp [Entries.get?, here]

theorem at?_along_map (names : List String) (keys : List Scalar) :
    (∃ inner, (along names d).at? keys = some (.map inner)) ↔
      keys <+: names.map .text ∧ keys ≠ names.map .text := by
  induction names generalizing keys with
  | nil =>
      simp only [along, List.map_nil, List.prefix_nil, ne_eq, and_not_self, iff_false]
      rintro ⟨inner, found⟩
      cases keys with
      | nil =>
          obtain rfl := Option.some.inj ((at?_nil d).symm.trans found)
          exact leaf
      | cons key keys => simp [at?_leaf leaf] at found
  | cons name names ih =>
      cases keys with
      | nil => simp [along]
      | cons key keys =>
          rw [along, at?_map, Entries.get?_cons, Scalar.sameKey_comm]
          by_cases here : key = .text name
          · subst here
            simp [ih]
          · rw [if_neg (mt Scalar.sameKey_text_iff.mp here)]
            simp [Entries.get?, here]

theorem at?_along_none (names : List String) (keys : List Scalar) :
    (along names d).at? keys = none ↔ ¬ keys <+: names.map .text := by
  have there : (∃ found, (along names d).at? keys = some found) ↔ keys <+: names.map .text := by
    constructor
    · rintro ⟨found, there⟩
      obtain isLeaf | ⟨inner, rfl⟩ := found.isLeaf_or_map
      · obtain ⟨rfl, -⟩ := (at?_along_leaf leaf names keys found).mp ⟨there, isLeaf⟩
        exact List.prefix_rfl
      · exact ((at?_along_map leaf names keys).mp ⟨inner, there⟩).1
    · intro front
      by_cases whole : keys = names.map .text
      · exact ⟨d, ((at?_along_leaf leaf names keys d).mpr ⟨whole, rfl⟩).1⟩
      · obtain ⟨inner, found⟩ := (at?_along_map leaf names keys).mpr ⟨front, whole⟩
        exact ⟨_, found⟩
  rw [← there, not_exists]
  exact Option.eq_none_iff_forall_ne_some

end Along

end Datum

namespace Text

theorem splitFrom_ne_nil (separator : List Char) (skip : Nat) (read cs : List Char) :
    splitFrom separator skip read cs ≠ [] := by
  fun_induction splitFrom separator skip read cs with
  | case1 => exact nofun
  | case2 _ _ _ _ ih => exact ih
  | case3 => exact nofun
  | case4 _ _ _ _ ih => exact ih

end Text

namespace Entries

def namesOf (separator key : String) : List String := Text.split separator.toList key.toList

def pathOf (separator key : String) : List Scalar := (namesOf separator key).map .text

def single (separator key : String) (d : Datum) : Entries :=
  match namesOf separator key with
  | [] => []
  | name :: names => [(.text name, .along names d)]

theorem namesOf_ne_nil (separator key : String) : namesOf separator key ≠ [] :=
  Text.splitFrom_ne_nil separator.toList 0 [] key.toList

theorem pathOf_ne_nil (separator key : String) : pathOf separator key ≠ [] :=
  mt List.map_eq_nil_iff.mp (namesOf_ne_nil separator key)

theorem map_single (separator key : String) (d : Datum) :
    Datum.map (single separator key d) = Datum.along (namesOf separator key) d := by
  rw [single]
  split
  · next none => exact absurd none (namesOf_ne_nil separator key)
  · next some => rw [some, Datum.along]

theorem keyed_single (separator key : String) {d : Datum} (leaf : d.IsLeaf) :
    Keyed (single separator key d) := by
  have along (names : List String) : (Datum.along names d).Keyed := by
    induction names with
    | nil => exact leaf.keyed
    | cons name names ih => exact ⟨nofun, ih, trivial⟩
  have inside := along (namesOf separator key)
  rwa [← map_single] at inside

section Placed

theorem overlay_under (es : Entries) (name : String) (key : Scalar) (d : Datum) :
    Datum.map (overlay (under es (.text name)) [(key, d)]) =
      Datum.overlay ((get? es (.text name)).getD .null) (.map [(key, d)]) := by
  unfold under
  split
  · next inner found => rw [found]; rfl
  · next other =>
      rw [overlay_nil_single]
      cases found : get? es (.text name) with
      | none => exact (Datum.null_overlay _).symm
      | some old =>
          obtain leaf | ⟨inner, rfl⟩ := old.isLeaf_or_map
          · exact (Datum.leaf_overlay leaf _).symm
          · exact (other inner found).elim

variable {d : Datum} (leaf : d.IsLeaf)
include leaf

theorem place_eq_overlay (es : Entries) (name : String) (names : List String) :
    place es name names d = overlay es [(.text name, .along names d)] := by
  induction names generalizing es name with
  | nil => rw [place, Datum.along, overlay, overlay, Datum.overlay_leaf leaf]
  | cons next names ih => rw [place, ih, overlay_under, Datum.along, overlay, overlay]

theorem placeKey_eq_overlay (separator : String) (es : Entries) (key : String) :
    placeKey separator.toList es key d = overlay es (single separator key d) := by
  rw [placeKey, single, namesOf]
  cases Text.split separator.toList key.toList with
  | nil => rw [overlay]
  | cons name names => exact place_eq_overlay leaf es name names

end Placed

theorem foldl_placeKey (separator : String) {items : List (String × Datum)}
    (leaves : ∀ item ∈ items, item.2.IsLeaf) (start : Entries) :
    items.foldl (fun es e => placeKey separator.toList es e.1 e.2) start =
      (items.map fun item => single separator item.1 item.2).foldl overlay start := by
  induction items generalizing start with
  | nil => rfl
  | cons item items ih =>
      obtain ⟨first, others⟩ := List.forall_mem_cons.mp leaves
      rw [List.foldl_cons, List.map_cons, List.foldl_cons, placeKey_eq_overlay first, ih others]

theorem nest?_eq_some {separator : String} (nonempty : separator ≠ "")
    (items : List (String × Datum)) :
    nest? separator items =
      some (items.foldl (fun es e => placeKey separator.toList es e.1 e.2) []) :=
  if_neg fun none => nonempty none.1

/-- Nested keys are the mappings of their paths, laid over each other in order: whatever is in the
way of a later key gives way to it, section or leaf. -/
theorem nest?_eq_layered {separator : String} (nonempty : separator ≠ "")
    {items : List (String × Datum)} (leaves : ∀ item ∈ items, item.2.IsLeaf) :
    nest? separator items =
      some (layered (items.map fun item => single separator item.1 item.2)) := by
  rw [nest?_eq_some nonempty, foldl_placeKey separator leaves, layered]

theorem nest?_eq_layered_conflicts :
    nest? "__" [("a", .integer 1), ("b", .integer 2), ("a__c__d", .integer 3),
        ("a__c", .integer 4), ("a__c__", .integer 5)] =
      some (layered [
        [(.text "a", .integer 1)],
        [(.text "b", .integer 2)],
        [(.text "a", .map [(.text "c", .map [(.text "d", .integer 3)])])],
        [(.text "a", .map [(.text "c", .integer 4)])],
        [(.text "a", .map [(.text "c", .map [(.text "", .integer 5)])])]]) :=
  nest?_eq_layered (by decide) (by simp [Datum.IsLeaf])

section Held

/-- None of two paths leads to the other one or through its end. -/
def Apart (path other : List Scalar) : Prop := ¬ path <+: other ∧ ¬ other <+: path

/-- The leaves of a mapping are the given ones, and no section leads to none of them. -/
structure Holds (es : Entries) (leaves : List (List Scalar × Datum)) : Prop where
  leaf : ∀ path d, es.HasLeaf path d ↔ (path, d) ∈ leaves
  inner : ∀ path, es.HasSection path ↔
    path = [] ∨ ∃ l ∈ leaves, path <+: l.1 ∧ path ≠ l.1

theorem holds_nil : Holds [] [] where
  leaf path d := by
    simp only [List.not_mem_nil, iff_false]
    rintro ⟨found, leaf⟩
    cases path with
    | nil =>
        cases found
        exact leaf
    | cons key path => cases found
  inner path := by
    cases path with
    | nil => simp [HasSection]
    | cons key path => simp [HasSection, get?]

section Single

variable {separator key : String} {d : Datum} (leaf : d.IsLeaf) (path : List Scalar)
include leaf

theorem hasLeaf_single (v : Datum) :
    (single separator key d).HasLeaf path v ↔ path = pathOf separator key ∧ v = d := by
  rw [HasLeaf, map_single]
  exact Datum.at?_along_leaf leaf _ path v

theorem hasSection_single :
    (single separator key d).HasSection path ↔
      path <+: pathOf separator key ∧ path ≠ pathOf separator key := by
  rw [HasSection, map_single]
  exact Datum.at?_along_map leaf _ path

theorem hasRoom_single :
    (single separator key d).HasRoom path ↔ Apart path (pathOf separator key) := by
  have none : (Datum.map (single separator key d)).at? path = none ↔
      ¬ path <+: pathOf separator key := by
    rw [map_single]
    exact Datum.at?_along_none leaf _ path
  constructor
  · rintro ⟨nothing, unblocked⟩
    have differs := none.mp nothing
    refine ⟨differs, fun front => ?_⟩
    refine unblocked _ front ?_ d ((hasLeaf_single leaf _ d).mpr ⟨rfl, rfl⟩)
    rintro rfl
    exact differs List.prefix_rfl
  · rintro ⟨differs, behind⟩
    refine ⟨none.mpr differs, fun before front _ v found => ?_⟩
    obtain ⟨rfl, -⟩ := (hasLeaf_single leaf before v).mp found
    exact behind front

end Single

variable {separator : String}

theorem Holds.overlay_single {es : Entries} {held : List (List Scalar × Datum)}
    (holds : Holds es held) {key : String} {d : Datum} (leaf : d.IsLeaf)
    (apart : ∀ l ∈ held, Apart l.1 (pathOf separator key)) :
    Holds (overlay es (single separator key d)) (held ++ [(pathOf separator key, d)]) where
  leaf path v := by
    rw [hasLeaf_overlay (keyed_single separator key leaf), hasLeaf_single leaf,
      hasRoom_single leaf, holds.leaf, List.mem_append, List.mem_singleton, Prod.mk.injEq]
    constructor
    · rintro (new | ⟨old, -⟩)
      · exact .inr new
      · exact .inl old
    · rintro (old | new)
      · exact .inr ⟨old, apart _ old⟩
      · exact .inl new
  inner path := by
    rw [hasSection_overlay (keyed_single separator key leaf), hasSection_single leaf,
      hasRoom_single leaf, holds.inner]
    constructor
    · rintro (⟨front, other⟩ | ⟨rfl | ⟨l, mem, front⟩, -⟩)
      · exact .inr ⟨_, List.mem_append_right _ (List.mem_singleton_self _), front, other⟩
      · exact .inl rfl
      · exact .inr ⟨l, List.mem_append_left _ mem, front⟩
    · rintro (rfl | ⟨l, mem, front, other⟩)
      · exact .inl ⟨List.nil_prefix, fun none => pathOf_ne_nil separator key none.symm⟩
      · obtain old | new := List.mem_append.mp mem
        · by_cases toward : path <+: pathOf separator key
          · refine .inl ⟨toward, ?_⟩
            rintro rfl
            exact (apart l old).2 front
          · exact .inr ⟨.inr ⟨l, old, front, other⟩, toward,
              fun behind => (apart l old).2 (behind.trans front)⟩
        · cases List.mem_singleton.mp new
          exact .inl ⟨front, other⟩

/-- Keys whose paths are apart are all held, and nothing else is. -/
theorem holds_nest? (nonempty : separator ≠ "") {items : List (String × Datum)}
    (leaves : ∀ item ∈ items, item.2.IsLeaf)
    (apart : items.Pairwise fun a b => Apart (pathOf separator a.1) (pathOf separator b.1)) :
    ∃ es, nest? separator items = some es ∧
      Holds es (items.map fun item => (pathOf separator item.1, item.2)) := by
  refine ⟨_, nest?_eq_some nonempty items, ?_⟩
  rw [foldl_placeKey separator leaves]
  -- The last key lies on top of all others.
  induction items using List.reverseRecOn with
  | nil => exact holds_nil
  | append_singleton items item ih =>
      obtain ⟨before, last⟩ := List.forall_mem_append.mp leaves
      obtain ⟨among, -, between⟩ := List.pairwise_append.mp apart
      rw [List.map_append, List.map_append, List.foldl_append]
      refine (ih before among).overlay_single (last item (List.mem_singleton_self _)) ?_
      intro l mem
      obtain ⟨other, earlier, rfl⟩ := List.mem_map.mp mem
      exact between other earlier item (List.mem_singleton_self _)

end Held

end Entries

end Formulary
