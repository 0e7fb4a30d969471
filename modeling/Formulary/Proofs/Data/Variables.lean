import Formulary.Proofs.Data.Nested

set_option autoImplicit false

namespace Formulary

mutual

/-- The same data, but for the order of keys. -/
def Datum.Same : Datum → Datum → Prop
  | .map es, .map others => Entries.Inside es others ∧ ∀ o ∈ others, (Entries.get? es o.1).isSome
  | d, other => d = other

def Entries.Inside : Entries → Entries → Prop
  | [], _ => True
  | (key, d) :: es, others =>
      (∃ other, Entries.get? others key = some other ∧ d.Same other) ∧ Entries.Inside es others

end

theorem Entries.inside_iff {es others : Entries} :
    Inside es others ↔ ∀ e ∈ es, ∃ other, get? others e.1 = some other ∧ e.2.Same other := by
  induction es with
  | nil => simp [Inside]
  | cons e es ih =>
      obtain ⟨key, d⟩ := e
      rw [Inside, ih, List.forall_mem_cons]

namespace Datum

/-- Every path leads to one leaf in both, or to a section in both, or to nothing in either. -/
structure Agree (d other : Datum) : Prop where
  leaf : ∀ keys found, d.at? keys = some found ∧ found.IsLeaf ↔
    other.at? keys = some found ∧ found.IsLeaf
  inner : ∀ keys, (∃ es, d.at? keys = some (.map es)) ↔ ∃ es, other.at? keys = some (.map es)

theorem Agree.symm {d other : Datum} (agree : Agree d other) : Agree other d :=
  ⟨fun keys found => (agree.leaf keys found).symm, fun keys => (agree.inner keys).symm⟩

theorem Agree.under {es others : Entries} (agree : Agree (.map es) (.map others)) {key : Scalar}
    {d : Datum} (found : Entries.get? es key = some d) :
    ∃ other, Entries.get? others key = some other ∧ Agree d other := by
  have led (keys : List Scalar) : (map es).at? (key :: keys) = d.at? keys := by
    rw [at?_map, found, Option.bind_some]
  have there : ∃ end_, (map others).at? [key] = some end_ := by
    obtain leaf | ⟨inner, rfl⟩ := d.isLeaf_or_map
    · exact ⟨d, ((agree.leaf [key] d).mp ⟨(led []).trans (at?_nil d), leaf⟩).1⟩
    · obtain ⟨inner', there⟩ := (agree.inner [key]).mp ⟨inner, (led []).trans (at?_nil _)⟩
      exact ⟨_, there⟩
  obtain ⟨_, there⟩ := there
  obtain ⟨other, found', -⟩ := Option.bind_eq_some_iff.mp there
  have led' (keys : List Scalar) : (map others).at? (key :: keys) = other.at? keys := by
    rw [at?_map, found', Option.bind_some]
  refine ⟨other, found', ?_, ?_⟩
  · intro keys v
    rw [← led, ← led']
    exact agree.leaf (key :: keys) v
  · intro keys
    rw [← led, ← led']
    exact agree.inner (key :: keys)

theorem same_of_agree {d other : Datum} (keyed : d.Keyed) (keyed' : other.Keyed)
    (agree : Agree d other) : Same d other := by
  induction d using Datum.induction_on generalizing other with
  | leaf d leaf =>
      obtain ⟨found, -⟩ := (agree.leaf [] d).mp ⟨at?_nil d, leaf⟩
      obtain rfl := Option.some.inj ((at?_nil other).symm.trans found)
      cases other with
      | map es => exact leaf.elim
      | _ => rfl
  | map es inside =>
      obtain ⟨others, found⟩ := (agree.inner []).mp ⟨es, at?_nil _⟩
      obtain rfl := Option.some.inj ((at?_nil other).symm.trans found)
      refine ⟨Entries.inside_iff.mpr fun e mem => ?_, fun o mem => ?_⟩
      · have here := Entries.get?_of_mem keyed mem
        obtain ⟨d, there, agree⟩ := agree.under here
        exact ⟨d, there, inside e mem (Entries.keyed_of_get? keyed here)
          (Entries.keyed_of_get? keyed' there) agree⟩
      -- No key of the other mapping is left over.
      · obtain ⟨d, here, -⟩ := agree.symm.under (Entries.get?_of_mem keyed' mem)
        rw [here]
        rfl

end Datum

namespace Entries

theorem Holds.agree {es others : Entries} {held held' : List (List Scalar × Datum)}
    (holds : Holds es held) (holds' : Holds others held') (perm : held'.Perm held) :
    Datum.Agree (.map es) (.map others) where
  leaf path d := by
    have here := holds.leaf path d
    rw [← perm.mem_iff, ← holds'.leaf] at here
    exact here
  inner path := by
    have here := holds.inner path
    simp only [← perm.mem_iff, ← holds'.inner] at here
    exact here

theorem nest?_perm {separator : String} (nonempty : separator ≠ "")
    {items others : List (String × Datum)} (perm : others.Perm items)
    (leaves : ∀ item ∈ items, item.2.IsLeaf)
    (apart : items.Pairwise fun a b => Apart (pathOf separator a.1) (pathOf separator b.1)) :
    ∃ es es', nest? separator items = some es ∧ nest? separator others = some es' ∧
      Datum.Same (.map es) (.map es') := by
  have leaves' : ∀ item ∈ others, item.2.IsLeaf := fun item mem => leaves item (perm.mem_iff.mp mem)
  obtain ⟨es, nested, holds⟩ := holds_nest? nonempty leaves apart
  obtain ⟨es', nested', holds'⟩ :=
    holds_nest? nonempty leaves' ((perm.pairwise_iff And.symm).mpr apart)
  refine ⟨es, es', nested, nested', Datum.same_of_agree ?_ ?_ (holds.agree holds' (perm.map _))⟩
  · exact keyed_nest? nested fun item mem => (leaves item mem).keyed
  · exact keyed_nest? nested' fun item mem => (leaves' item mem).keyed

end Entries

namespace Environment

theorem nestingSeparator_ne_empty : nestingSeparator ≠ "" := by decide

def path? (start name : String) : Option (List Scalar) :=
  (afterStart? start name).map fun rest => Entries.pathOf nestingSeparator (Text.lower rest)

def Valued (homes : Path.Homes) (start : String) (env : Environment) : Prop :=
  ∀ v ∈ env, (path? start v.1).isSome → (datum? homes v.2).isSome

def item? (homes : Path.Homes) (start : String) (v : String × String) : Option (String × Datum) := do
  let rest ← afterStart? start v.1
  let d ← datum? homes v.2
  return (Text.lower rest, d)

section Entries

variable {homes : Path.Homes} {start : String} {env : Environment}

theorem entries?_eq_none :
    env.entries? homes start = none ↔
      ∃ v ∈ env, (afterStart? start v.1).isSome = true ∧ datum? homes v.2 = none := by
  have nested (items : List (String × Datum)) : Entries.nest? nestingSeparator items ≠ none := by
    simp [Entries.nest?, nestingSeparator]
  rw [entries?, Option.bind_eq_bind, Option.bind_eq_none_iff]
  constructor
  · intro lost
    have all := Option.eq_none_iff_forall_ne_some.mpr fun items each => nested _ (lost items each)
    obtain ⟨v, mem, lost⟩ := mapM_eq_none.mp all
    split at lost
    · cases lost
    · rename_i named
      exact ⟨v, mem, by rw [named]; rfl, Option.map_eq_none_iff.mp lost⟩
  · rintro ⟨v, mem, named, lost⟩ items each
    obtain ⟨name, named⟩ := Option.isSome_iff_exists.mp named
    rw [mapM_eq_none.mpr ⟨v, mem, by simp [named, lost]⟩] at each
    cases each

theorem entries?_eq_nest? (valued : Valued homes start env) :
    env.entries? homes start =
      Entries.nest? nestingSeparator (env.filterMap (item? homes start)) := by
  rw [entries?, mapM_eq_some_map (g := fun v => (item? homes start v).toList),
    List.filterMap_eq_flatMap_toList, List.flatMap_def]
  · rfl
  · intro v mem
    have read := valued v mem
    rw [path?, Option.isSome_map] at read
    cases named : afterStart? start v.1 with
    | none => simp [item?, named]
    | some rest =>
        obtain ⟨d, read⟩ := Option.isSome_iff_exists.mp (read (by rw [named]; rfl))
        simp [item?, named, read]

def held (homes : Path.Homes) (start : String) (env : Environment) : List (List Scalar × Datum) :=
  (env.filterMap (item? homes start)).map fun item =>
    (Entries.pathOf nestingSeparator item.1, item.2)

theorem mem_held {path : List Scalar} {d : Datum} :
    (path, d) ∈ held homes start env ↔
      ∃ v ∈ env, path? start v.1 = some path ∧ datum? homes v.2 = some d := by
  simp only [held, List.mem_map, List.mem_filterMap, item?, path?, Option.map_eq_some_iff,
    Option.bind_eq_bind, Option.bind_eq_some_iff, Option.pure_def, Option.some.injEq,
    Prod.mk.injEq]
  constructor
  · rintro ⟨item, ⟨v, mem, rest, named, d', read, rfl⟩, rfl, rfl⟩
    exact ⟨v, mem, ⟨rest, named, rfl⟩, read⟩
  · rintro ⟨v, mem, ⟨rest, named, rfl⟩, read⟩
    exact ⟨_, ⟨v, mem, rest, named, d, read, rfl⟩, rfl, rfl⟩

theorem front_held (valued : Valued homes start env) {path : List Scalar} :
    (∃ l ∈ held homes start env, path <+: l.1 ∧ path ≠ l.1) ↔
      ∃ v ∈ env, ∃ p, path? start v.1 = some p ∧ path <+: p ∧ path ≠ p := by
  constructor
  · rintro ⟨⟨p, d⟩, mem, front⟩
    obtain ⟨v, mem, led, -⟩ := mem_held.mp mem
    exact ⟨v, mem, p, led, front⟩
  · rintro ⟨v, mem, p, led, front⟩
    obtain ⟨d, read⟩ := Option.isSome_iff_exists.mp (valued v mem (by rw [led]; rfl))
    exact ⟨(p, d), mem_held.mpr ⟨v, mem, led, read⟩, front⟩

theorem isLeaf_item {item : String × Datum} (mem : item ∈ env.filterMap (item? homes start)) :
    item.2.IsLeaf := by
  obtain ⟨v, -, -, read⟩ := mem_held.mp (List.mem_map_of_mem mem)
  exact isLeaf_datum? read

section Apart

variable (distinct : (env.map Prod.fst).Nodup)
  (apart : ∀ v ∈ env, ∀ w ∈ env, v.1 ≠ w.1 → ∀ p q,
    path? start v.1 = some p → path? start w.1 = some q → Entries.Apart p q)
include distinct apart

theorem apart_items :
    (env.filterMap (item? homes start)).Pairwise fun a b => Entries.Apart
      (Entries.pathOf nestingSeparator a.1) (Entries.pathOf nestingSeparator b.1) := by
  have led {v : String × String} {item : String × Datum} (given : item? homes start v = some item) :
      path? start v.1 = some (Entries.pathOf nestingSeparator item.1) := by
    simp only [item?, Option.bind_eq_bind, Option.bind_eq_some_iff, Option.pure_def,
      Option.some.injEq] at given
    obtain ⟨rest, named, d, -, rfl⟩ := given
    rw [path?, named, Option.map_some]
  rw [List.pairwise_filterMap]
  refine (List.pairwise_map.mp distinct).imp_of_mem ?_
  intro v w memV memW differs a fromV b fromW
  exact apart v memV w memW differs _ _ (led fromV) (led fromW)

theorem holds_entries? (valued : Valued homes start env) :
    ∃ es, env.entries? homes start = some es ∧ Entries.Holds es (held homes start env) := by
  obtain ⟨es, nested, holds⟩ := Entries.holds_nest? nestingSeparator_ne_empty
    (fun _ => isLeaf_item) (apart_items distinct apart)
  exact ⟨es, (entries?_eq_nest? valued).trans nested, holds⟩

theorem entries?_perm (valued : Valued homes start env) {es : Entries}
    (read : env.entries? homes start = some es) {other : Environment} (perm : other.Perm env) :
    ∃ es', other.entries? homes start = some es' ∧ Datum.Same (.map es) (.map es') := by
  have valued' : Valued homes start other := fun v mem => valued v (perm.mem_iff.mp mem)
  rw [entries?_eq_nest? valued] at read
  rw [entries?_eq_nest? valued']
  obtain ⟨es₁, es', nested, nested', same⟩ := Entries.nest?_perm nestingSeparator_ne_empty
    (perm.filterMap (item? homes start)) (fun _ => isLeaf_item) (apart_items distinct apart)
  obtain rfl := Option.some.inj (read.symm.trans nested)
  exact ⟨es', nested', same⟩

end Apart

theorem entries?_unvalued (unvalued : ¬ Valued homes start env) :
    env.entries? homes start = none := by
  simp only [Valued, not_forall, Bool.not_eq_true, Option.isSome_eq_false_iff,
    Option.isNone_iff_eq_none] at unvalued
  obtain ⟨v, mem, used, lost⟩ := unvalued
  rw [path?, Option.isSome_map] at used
  exact entries?_eq_none.mpr ⟨v, mem, used, lost⟩

/-- Variables with paths apart give the same mapping in any order. It has the value of each of them
at the end of its path and nothing else. If a value is missing, there is no mapping in any order. -/
theorem entries?_any_order (distinct : (env.map Prod.fst).Nodup)
    (apart : ∀ v ∈ env, ∀ w ∈ env, v.1 ≠ w.1 → ∀ p q,
      path? start v.1 = some p → path? start w.1 = some q → Entries.Apart p q) :
    (Valued homes start env → ∃ es, env.entries? homes start = some es ∧
      (∀ path d, es.HasLeaf path d ↔
        ∃ v ∈ env, path? start v.1 = some path ∧ datum? homes v.2 = some d) ∧
      (∀ path, es.HasSection path ↔ path = [] ∨
        ∃ v ∈ env, ∃ p, path? start v.1 = some p ∧ path <+: p ∧ path ≠ p) ∧
      ∀ other : Environment, other.Perm env →
        ∃ es', other.entries? homes start = some es' ∧ Datum.Same (.map es) (.map es')) ∧
    (¬ Valued homes start env →
      ∀ other : Environment, other.Perm env → other.entries? homes start = none) := by
  constructor
  · intro valued
    obtain ⟨es, read, holds⟩ := holds_entries? distinct apart valued
    refine ⟨es, read, ?_, ?_, fun other => entries?_perm distinct apart valued read⟩
    · intro path d
      rw [holds.leaf, mem_held]
    · intro path
      rw [holds.inner, front_held valued]
  · intro unvalued other perm
    exact entries?_unvalued fun valued => unvalued fun v mem => valued v (perm.mem_iff.mpr mem)

end Entries

def exampleVariables : Environment :=
  [("HOME", "/root"), ("APP_LOG__LEVEL", "3"), ("APP_LOG__", "on")]

def exampleHomes : Path.Homes := { own := some "/root" }

theorem entries?_any_order_shared :
    ∃ es, exampleVariables.entries? exampleHomes "APP_" = some es ∧
      es.HasLeaf [.text "log", .text ""] (.boolean true) ∧
      ∃ es', entries? exampleHomes "APP_" exampleVariables.reverse = some es' ∧
        Datum.Same (.map es) (.map es') := by
  have home : path? "APP_" "HOME" = none := rfl
  have level : path? "APP_" "APP_LOG__LEVEL" = some [.text "log", .text "level"] := rfl
  have log : path? "APP_" "APP_LOG__" = some [.text "log", .text ""] := rfl
  have apart : ∀ v ∈ exampleVariables, ∀ w ∈ exampleVariables, v.1 ≠ w.1 → ∀ p q,
      path? "APP_" v.1 = some p → path? "APP_" w.1 = some q → Entries.Apart p q := by
    simp [exampleVariables, home, level, log, Entries.Apart, List.cons_prefix_cons]
  have valued : Valued exampleHomes "APP_" exampleVariables := by
    simp only [Valued, exampleVariables, List.forall_mem_cons]
    exact ⟨fun _ => rfl, fun _ => rfl, fun _ => rfl, nofun⟩
  obtain ⟨given, -⟩ := @entries?_any_order exampleHomes _ _ (by decide) apart
  obtain ⟨es, read, leaves, -, orders⟩ := given valued
  refine ⟨es, read, ?_, orders _ (List.reverse_perm _)⟩
  exact (leaves _ _).mpr ⟨("APP_LOG__", "on"), by simp [exampleVariables], log, rfl⟩

theorem entries?_lost_note :
    ([("SHEETCALC_NOTE", "./~draft")].map Prod.fst).Nodup ∧
      path? "SHEETCALC_" "SHEETCALC_NOTE" = some [.text "note"] ∧
      ∀ es, entries? { own := some "/home/user" } "SHEETCALC_" [("SHEETCALC_NOTE", "./~draft")] ≠
        some es :=
  ⟨by decide, rfl, nofun⟩

end Environment

end Formulary
