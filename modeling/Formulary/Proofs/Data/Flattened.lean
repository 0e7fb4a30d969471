import Formulary.Proofs.Data.Nested

set_option autoImplicit false

namespace Formulary

mutual

/-- The keys are names without a dot, and no mapping inside is empty. -/
def Datum.Undotted : Datum → Prop
  | .map es => Entries.Undotted es
  | _ => True

def Entries.Undotted : Entries → Prop
  | [] => True
  | (key, d) :: es =>
      ((∃ name, key = .text name ∧ '.' ∉ name.toList) ∧ d ≠ .map [] ∧ d.Undotted) ∧
        Entries.Undotted es

end

mutual

def Datum.leafPaths : Datum → List (List String × Datum)
  | .map es => Entries.leafPaths es
  | d => [([], d)]

def Entries.leafPaths : Entries → List (List String × Datum)
  | [] => []
  | (key, d) :: es => (d.leafPaths.map fun l => (key.display :: l.1, l.2)) ++ Entries.leafPaths es

end

theorem Datum.leafPaths_leaf {d : Datum} (leaf : d.IsLeaf) : d.leafPaths = [([], d)] := by
  cases d with
  | map es => exact leaf.elim
  | _ => rfl

namespace Entries

theorem mem_leafPaths {es : Entries} {l : List String × Datum} :
    l ∈ leafPaths es ↔
      ∃ e ∈ es, ∃ inner ∈ e.2.leafPaths, l = (e.1.display :: inner.1, inner.2) := by
  induction es with
  | nil => simp [leafPaths]
  | cons e es ih =>
      obtain ⟨key, d⟩ := e
      simp only [leafPaths, List.mem_append, List.mem_map, ih, List.exists_mem_cons_iff, eq_comm]

theorem starts_leafPaths {es : Entries} {names : List String}
    (mem : names ∈ (leafPaths es).map Prod.fst) :
    ∃ behind, ∃ e ∈ es, names = e.1.display :: behind := by
  obtain ⟨l, leaf, rfl⟩ := List.mem_map.mp mem
  obtain ⟨e, among, inner, -, rfl⟩ := mem_leafPaths.mp leaf
  exact ⟨inner.1, e, among, rfl⟩

theorem undotted_iff {es : Entries} :
    Undotted es ↔
      ∀ e ∈ es, (∃ name, e.1 = .text name ∧ '.' ∉ name.toList) ∧ e.2 ≠ .map [] ∧ e.2.Undotted := by
  induction es with
  | nil => simp [Undotted]
  | cons e es ih =>
      obtain ⟨key, d⟩ := e
      rw [Undotted, ih, List.forall_mem_cons]

end Entries

section Names

theorem intercalate_append (front name : String) (names : List String) :
    ".".intercalate ((front ++ name) :: names) = front ++ ".".intercalate (name :: names) := by
  cases names with
  | nil => simp
  | cons next names => simp only [String.intercalate_cons_cons, String.append_assoc]

theorem Entries.flattenUnder_eq (front : String) {es : Entries}
    (inside : ∀ e ∈ es, ∀ name, Entries.Datum.leaves name e.2 =
      e.2.leafPaths.map fun l => (".".intercalate (name :: l.1), l.2)) :
    flattenUnder front es =
      (leafPaths es).map fun l => (front ++ ".".intercalate l.1, l.2) := by
  induction es with
  | nil => rfl
  | cons e es ih =>
      obtain ⟨key, d⟩ := e
      obtain ⟨first, others⟩ := List.forall_mem_cons.mp inside
      rw [flattenUnder, leafPaths, first, ih others, List.map_append, List.map_map]
      simp only [intercalate_append, Function.comp_def]

theorem Entries.leaves_eq (d : Datum) (name : String) :
    Entries.Datum.leaves name d =
      d.leafPaths.map fun l => (".".intercalate (name :: l.1), l.2) := by
  induction d using Formulary.Datum.induction_on generalizing name with
  | leaf d leaf =>
      cases d with
      | map es => exact leaf.elim
      | _ => simp [Entries.Datum.leaves, Formulary.Datum.leafPaths]
  | map es inside =>
      rw [Entries.Datum.leaves, flattenUnder_eq _ inside, Formulary.Datum.leafPaths]
      refine List.map_congr_left fun l mem => ?_
      obtain ⟨e, -, inner, -, rfl⟩ := mem_leafPaths.mp mem
      simp only [String.intercalate_cons_cons]

theorem Entries.flatten_eq (es : Entries) :
    flatten es = (leafPaths es).map fun l => (".".intercalate l.1, l.2) := by
  rw [flatten, flattenUnder_eq "" fun e _ => leaves_eq e.2]
  simp

end Names

namespace Datum

theorem leafPaths_ne_nil {d : Datum} (undotted : d.Undotted) (nonempty : d ≠ .map []) :
    d.leafPaths ≠ [] := by
  induction d using Datum.induction_on with
  | leaf d leaf => simp [leafPaths_leaf leaf]
  | map es inside =>
      cases es with
      | nil => exact absurd rfl nonempty
      | cons e es =>
          obtain ⟨-, some, within⟩ := Entries.undotted_iff.mp undotted e (List.mem_cons_self ..)
          simp [leafPaths, Entries.leafPaths, inside e (List.mem_cons_self ..) within some]

theorem notMem_leafPaths {d : Datum} (undotted : d.Undotted) :
    ∀ l ∈ d.leafPaths, ∀ name ∈ l.1, '.' ∉ name.toList := by
  induction d using Datum.induction_on with
  | leaf d leaf => simp [leafPaths_leaf leaf]
  | map es inside =>
      intro l leaf name among
      obtain ⟨e, mem, inner, given, rfl⟩ := Entries.mem_leafPaths.mp leaf
      obtain ⟨⟨key, spelled, absent⟩, -, within⟩ := Entries.undotted_iff.mp undotted e mem
      obtain rfl | among := List.mem_cons.mp among
      · rw [spelled]
        exact absent
      · exact inside e mem within inner given name among

theorem mem_leafPaths {d : Datum} (keyed : d.Keyed) (undotted : d.Undotted) {names : List String}
    {v : Datum} :
    (names, v) ∈ d.leafPaths ↔ d.at? (names.map .text) = some v ∧ v.IsLeaf := by
  induction d using Datum.induction_on generalizing names with
  | leaf d leaf =>
      rw [leafPaths_leaf leaf, List.mem_singleton, Prod.mk.injEq]
      cases names with
      | nil =>
          simp only [true_and, List.map_nil, at?_nil, Option.some.injEq]
          constructor
          · rintro rfl
            exact ⟨rfl, leaf⟩
          · rintro ⟨rfl, -⟩
            rfl
      | cons name names => simp [at?_leaf leaf]
  | map es inside =>
      rw [leafPaths, Entries.mem_leafPaths]
      constructor
      · rintro ⟨e, mem, inner, given, same⟩
        obtain ⟨⟨key, spelled, -⟩, -, within⟩ := Entries.undotted_iff.mp undotted e mem
        have found := Entries.get?_of_mem keyed mem
        obtain ⟨rfl, rfl⟩ := Prod.mk.inj same
        rw [List.map_cons, spelled, Scalar.display, at?_map, ← spelled, found]
        exact (inside e mem (Entries.keyed_of_get? keyed found) within).mp given
      · rintro ⟨led, leaf⟩
        cases names with
        | nil =>
            cases (at?_nil _).symm.trans led
            exact leaf.elim
        | cons name names =>
            obtain ⟨d, found, led⟩ := Option.bind_eq_some_iff.mp led
            have mem := Entries.mem_of_get? found
            obtain ⟨-, -, within⟩ := Entries.undotted_iff.mp undotted _ mem
            refine ⟨_, mem, (names, v), ?_, rfl⟩
            exact (inside _ mem (Entries.keyed_of_get? keyed found) within).mpr ⟨led, leaf⟩

theorem texts_of_at? {d : Datum} (undotted : d.Undotted) {keys : List Scalar} {v : Datum}
    (led : d.at? keys = some v) : ∃ names : List String, keys = names.map .text := by
  induction keys generalizing d with
  | nil => exact ⟨[], rfl⟩
  | cons key keys ih =>
      obtain leaf | ⟨es, rfl⟩ := d.isLeaf_or_map
      · rw [at?_leaf leaf] at led
        cases led
      obtain ⟨inner, found, led⟩ := Option.bind_eq_some_iff.mp led
      obtain ⟨e, first, rfl⟩ := Option.map_eq_some_iff.mp found
      have same := List.find?_some first
      obtain ⟨⟨name, spelled, -⟩, -, within⟩ :=
        Entries.undotted_iff.mp undotted e (List.mem_of_find?_eq_some first)
      obtain ⟨names, rfl⟩ := ih within led
      rw [spelled, Scalar.sameKey_comm] at same
      exact ⟨name :: names, by rw [Scalar.sameKey_text_iff.mp same, List.map_cons]⟩

theorem nodup_leafPaths {d : Datum} (keyed : d.Keyed) (undotted : d.Undotted) :
    (d.leafPaths.map Prod.fst).Nodup := by
  induction d using Datum.induction_on with
  | leaf d leaf => simp [leafPaths_leaf leaf]
  | map es inside =>
      rw [leafPaths]
      induction es with
      | nil => exact List.nodup_nil
      | cons e es ih =>
          obtain ⟨key, d⟩ := e
          obtain ⟨apart, first, others⟩ := keyed
          obtain ⟨⟨⟨name, rfl, -⟩, -, within⟩, rest⟩ := undotted
          obtain ⟨here, inside⟩ := List.forall_mem_cons.mp inside
          rw [Entries.leafPaths, List.map_append, List.nodup_append']
          refine ⟨?_, ih inside others rest, ?_⟩
          · rw [List.map_map]
            refine List.Nodup.of_map List.tail ?_
            rw [List.map_map]
            exact here first within
          -- The paths that follow start with another name.
          · intro names mem mem'
            obtain ⟨behind, e, among, same⟩ := Entries.starts_leafPaths mem'
            simp only [List.map_map, List.mem_map] at mem
            obtain ⟨l, -, rfl⟩ := mem
            obtain ⟨⟨name', spelled, -⟩, -⟩ := Entries.undotted_iff.mp rest e among
            have differs := apart e among
            rw [spelled] at same differs
            obtain ⟨rfl, -⟩ := List.cons.inj same
            rw [Scalar.sameKey_text, beq_eq_false_iff_ne] at differs
            exact differs rfl

end Datum

namespace Entries

section Dotted

theorem namesOf_intercalate {names : List String} (nonempty : names ≠ [])
    (absent : ∀ name ∈ names, '.' ∉ name.toList) :
    namesOf "." (".".intercalate names) = names := by
  have dot : ".".toList = ['.'] := rfl
  rw [namesOf, String.toList_intercalate, dot, Text.split_intercalate nonempty absent]

theorem intercalate_namesOf (key : String) : ".".intercalate (namesOf "." key) = key := by
  have dot : ".".toList = ['.'] := rfl
  rw [← String.toList_inj, String.toList_intercalate, namesOf, dot, Text.intercalate_split]

theorem namesOf_injective : Function.Injective (namesOf ".") :=
  Function.LeftInverse.injective intercalate_namesOf

theorem pathOf_injective : Function.Injective (pathOf ".") :=
  (List.map_injective_iff.mpr fun _ _ => Scalar.text.inj).comp namesOf_injective

variable {es : Entries} (undotted : Undotted es)
include undotted

theorem namesOf_flatten :
    (flatten es).map (fun item => (namesOf "." item.1, item.2)) = leafPaths es := by
  rw [flatten_eq, List.map_map]
  refine (List.map_congr_left fun l mem => ?_).trans (List.map_id _)
  have nonempty : l.1 ≠ [] := by
    obtain ⟨e, -, inner, -, rfl⟩ := mem_leafPaths.mp mem
    exact List.cons_ne_nil _ _
  have absent := Datum.notMem_leafPaths (d := .map es) undotted l mem
  simp only [Function.comp_apply, namesOf_intercalate nonempty absent, id]

variable (keyed : Keyed es)
include keyed

theorem mem_flatten (name : String) (d : Datum) :
    (name, d) ∈ flatten es ↔ es.HasLeaf (pathOf "." name) d := by
  have led := @Datum.mem_leafPaths (.map es) keyed undotted (namesOf "." name) d
  rw [HasLeaf, pathOf, ← led, Datum.leafPaths, ← namesOf_flatten undotted, List.mem_map]
  constructor
  · intro mem
    exact ⟨_, mem, rfl⟩
  · rintro ⟨⟨name', d'⟩, mem, same⟩
    obtain ⟨alike, rfl⟩ := Prod.mk.inj same
    obtain rfl := namesOf_injective alike
    exact mem

theorem hasLeaf_iff_flatten (path : List Scalar) (d : Datum) :
    es.HasLeaf path d ↔ ∃! name, path = pathOf "." name ∧ (name, d) ∈ flatten es := by
  constructor
  · rintro ⟨led, leaf⟩
    obtain ⟨names, rfl⟩ := @Datum.texts_of_at? (.map es) undotted path d led
    have mem := (@Datum.mem_leafPaths (.map es) keyed undotted names d).mpr ⟨led, leaf⟩
    rw [Datum.leafPaths, ← namesOf_flatten undotted] at mem
    obtain ⟨⟨name, d'⟩, named, same⟩ := List.mem_map.mp mem
    obtain ⟨rfl, rfl⟩ := Prod.mk.inj same
    exact ⟨name, ⟨rfl, named⟩, fun other found => (pathOf_injective found.1).symm⟩
  · rintro ⟨name, ⟨rfl, mem⟩, -⟩
    exact (mem_flatten undotted keyed name d).mp mem

theorem nodup_flatten : ((flatten es).map Prod.fst).Nodup := by
  have paths := Datum.nodup_leafPaths (d := .map es) keyed undotted
  rw [Datum.leafPaths, ← namesOf_flatten undotted, List.map_map] at paths
  refine List.Nodup.of_map (namesOf ".") ?_
  rwa [List.map_map]

end Dotted

end Entries

namespace Datum

/-- Data with leaves laid over it along their paths. -/
def grown (start : Datum) (leaves : List (List String × Datum)) : Datum :=
  leaves.foldl (fun d l => d.overlay (along l.1 l.2)) start

theorem grown_cons (start : Datum) (l : List String × Datum)
    (leaves : List (List String × Datum)) :
    start.grown (l :: leaves) = (start.overlay (along l.1 l.2)).grown leaves := rfl

theorem grown_append (start : Datum) (before after : List (List String × Datum)) :
    start.grown (before ++ after) = (start.grown before).grown after :=
  List.foldl_append

end Datum

namespace Entries

section Absent

variable {before : Entries} {key : Scalar} (absent : ∀ e ∈ before, e.1.sameKey key = false)
include absent

theorem get?_append (es : Entries) : get? (before ++ es) key = get? es key := by
  induction before with
  | nil => rfl
  | cons e before ih =>
      obtain ⟨first, others⟩ := List.forall_mem_cons.mp absent
      rw [List.cons_append, get?_cons, ih others, first]
      rfl

theorem put_append (es : Entries) (d : Datum) :
    put (before ++ es) key d = before ++ put es key d := by
  induction before with
  | nil => rfl
  | cons e before ih =>
      obtain ⟨first, others⟩ := List.forall_mem_cons.mp absent
      rw [List.cons_append, put, first, ih others]
      rfl

theorem overlay_append (es : Entries) (d : Datum) :
    overlay (before ++ es) [(key, d)] = before ++ overlay es [(key, d)] := by
  simp only [overlay, get?_append absent, put_append absent]

theorem grown_last {name : String} (spelled : key = .text name) (d : Datum)
    (leaves : List (List String × Datum)) :
    (Datum.map (before ++ [(key, d)])).grown (leaves.map fun l => (name :: l.1, l.2)) =
      .map (before ++ [(key, d.grown leaves)]) := by
  subst spelled
  induction leaves generalizing d with
  | nil => rfl
  | cons l leaves ih =>
      have step : overlay (before ++ [(.text name, d)]) [(.text name, .along l.1 l.2)] =
          before ++ [(.text name, d.overlay (.along l.1 l.2))] := by
        rw [overlay_append absent]
        simp [overlay, get?_cons, put]
      rw [List.map_cons, Datum.grown_cons, Datum.grown_cons, Datum.along, Datum.overlay, step, ih]

theorem grown_new {name : String} (spelled : key = .text name) (l : List String × Datum)
    (leaves : List (List String × Datum)) :
    (Datum.map before).grown ((l :: leaves).map fun l => (name :: l.1, l.2)) =
      .map (before ++ [(key, Datum.null.grown (l :: leaves))]) := by
  have step : overlay before [(key, .along l.1 l.2)] =
      before ++ [(key, Datum.null.overlay (.along l.1 l.2))] := by
    have appended := overlay_append absent [] (.along l.1 l.2)
    rwa [List.append_nil] at appended
  rw [List.map_cons, Datum.grown_cons, Datum.along, ← spelled, Datum.overlay, step,
    grown_last absent spelled, Datum.grown_cons]

end Absent

-- The induction goes along the entries: what came before has none of the keys that follow.
theorem grown_leafPaths {es before : Entries} (keyed : Keyed es) (undotted : Undotted es)
    (inside : ∀ e ∈ es, e.2.Keyed → e.2.Undotted → e.2 ≠ .map [] →
      Datum.null.grown e.2.leafPaths = e.2)
    (absent : ∀ e ∈ es, ∀ b ∈ before, b.1.sameKey e.1 = false) :
    (Datum.map before).grown (leafPaths es) = .map (before ++ es) := by
  induction es generalizing before with
  | nil => rw [leafPaths, List.append_nil]; rfl
  | cons e es ih =>
      obtain ⟨key, d⟩ := e
      obtain ⟨apart, first, others⟩ := keyed
      obtain ⟨⟨⟨name, spelled, -⟩, nonempty, within⟩, rest⟩ := undotted
      obtain ⟨here, inside⟩ := List.forall_mem_cons.mp inside
      obtain ⟨new, absent⟩ := List.forall_mem_cons.mp absent
      have display : key.display = name := by rw [spelled, Scalar.display]
      have filled : (Datum.map before).grown (d.leafPaths.map fun l => (name :: l.1, l.2)) =
          .map (before ++ [(key, d)]) := by
        obtain ⟨l, leaves, some⟩ := List.exists_cons_of_ne_nil
          (Datum.leafPaths_ne_nil within nonempty)
        rw [some, grown_new new spelled, ← some, here first within nonempty]
      rw [leafPaths, display, Datum.grown_append, filled, ih others rest inside, List.append_assoc]
      · rfl
      · intro e mem b among
        obtain old | last := List.mem_append.mp among
        · exact absent e mem b old
        · obtain rfl := List.mem_singleton.mp last
          exact apart e mem

end Entries

namespace Datum

theorem grown_leafPaths {d : Datum} (keyed : d.Keyed) (undotted : d.Undotted)
    (nonempty : d ≠ .map []) : null.grown d.leafPaths = d := by
  induction d using Datum.induction_on with
  | leaf d leaf =>
      rw [leafPaths_leaf leaf]
      exact null_overlay d
  | map es inside =>
      have grown := @Entries.grown_leafPaths es [] keyed undotted inside nofun
      -- The first leaf makes a mapping of nothing, so one may as well start from an empty one.
      cases leaves : Entries.leafPaths es with
      | nil => exact absurd leaves (leafPaths_ne_nil undotted nonempty)
      | cons l rest =>
          obtain ⟨e, -, inner, -, rfl⟩ :=
            Entries.mem_leafPaths.mp (leaves ▸ List.mem_cons_self ..)
          rw [leaves, grown_cons, along, overlay, Entries.overlay_nil_single] at grown
          rw [leafPaths, leaves, grown_cons, null_overlay, along, grown, List.nil_append]

end Datum

namespace Entries

theorem map_foldl_placeKey (separator : String) {items : List (String × Datum)}
    (leaves : ∀ item ∈ items, item.2.IsLeaf) (start : Entries) :
    Datum.map (items.foldl (fun es e => placeKey separator.toList es e.1 e.2) start) =
      (Datum.map start).grown (items.map fun item => (namesOf separator item.1, item.2)) := by
  induction items generalizing start with
  | nil => rfl
  | cons item items ih =>
      obtain ⟨first, others⟩ := List.forall_mem_cons.mp leaves
      rw [List.foldl_cons, ih others, placeKey_eq_overlay first, List.map_cons, Datum.grown_cons,
        ← map_single, Datum.overlay]

theorem nest?_flatten {es : Entries} (keyed : Keyed es) (undotted : Undotted es) :
    nest? "." (flatten es) = some es := by
  have leaves : ∀ item ∈ flatten es, item.2.IsLeaf := fun item mem =>
    ((mem_flatten undotted keyed item.1 item.2).mp mem).2
  have inside : ∀ e ∈ es, e.2.Keyed → e.2.Undotted → e.2 ≠ .map [] →
      Datum.null.grown e.2.leafPaths = e.2 := fun e _ => Datum.grown_leafPaths
  have back := map_foldl_placeKey "." leaves []
  rw [namesOf_flatten undotted, grown_leafPaths keyed undotted inside (by simp)] at back
  rw [nest?_eq_some (by decide), Datum.map.inj back, List.nil_append]

section Placed

theorem put_ne_nil (es : Entries) (key : Scalar) (d : Datum) : put es key d ≠ [] := by
  cases es with
  | nil => exact List.cons_ne_nil _ _
  | cons e es =>
      rw [put]
      split <;> exact List.cons_ne_nil _ _

theorem place_ne_nil (es : Entries) (name : String) (names : List String) (d : Datum) :
    place es name names d ≠ [] := by
  cases names <;> exact put_ne_nil _ _ _

variable {es : Entries} (undotted : Undotted es)
include undotted

theorem undotted_put {name : String} (absent : '.' ∉ name.toList) {d : Datum}
    (nonempty : d ≠ .map []) (inside : d.Undotted) : Undotted (put es (.text name) d) := by
  induction es with
  | nil => exact ⟨⟨⟨name, rfl, absent⟩, nonempty, inside⟩, trivial⟩
  | cons e es ih =>
      obtain ⟨⟨spelled, first⟩, others⟩ := undotted
      rw [put]
      split
      · exact ⟨⟨spelled, nonempty, inside⟩, others⟩
      · exact ⟨⟨spelled, first⟩, ih others⟩

theorem undotted_under (name : String) : Undotted (under es (.text name)) := by
  rw [under_text]
  split
  · next found => exact (undotted_iff.mp undotted _ (mem_of_get? found)).2.2
  · trivial

theorem undotted_place {name : String} {names : List String}
    (absent : ∀ n ∈ name :: names, '.' ∉ n.toList) {d : Datum} (leaf : d.IsLeaf) :
    Undotted (place es name names d) := by
  obtain ⟨here, further⟩ := List.forall_mem_cons.mp absent
  induction names generalizing es name with
  | nil =>
      refine undotted_put undotted here ?_ ?_
      · rintro rfl
        exact leaf
      · cases d with
        | map es => exact leaf.elim
        | _ => trivial
  | cons next names ih =>
      obtain ⟨first, others⟩ := List.forall_mem_cons.mp further
      refine undotted_put undotted here (mt Datum.map.inj (place_ne_nil _ _ _ _)) ?_
      exact ih (undotted_under undotted name) further first others

theorem undotted_placeKey (key : String) {d : Datum} (leaf : d.IsLeaf) :
    Undotted (placeKey ".".toList es key d) := by
  have absent : ∀ name ∈ Text.split ".".toList key.toList, '.' ∉ name.toList := fun name mem =>
    Text.notMem_of_mem_splitFrom List.not_mem_nil mem
  rw [placeKey]
  cases names : Text.split ".".toList key.toList with
  | nil => exact undotted
  | cons name names' =>
      rw [names] at absent
      exact undotted_place undotted absent leaf

end Placed

theorem flatten_nest? {items : List (String × Datum)} (leaves : ∀ item ∈ items, item.2.IsLeaf)
    (apart : items.Pairwise fun a b => Apart (pathOf "." a.1) (pathOf "." b.1)) :
    ∃ es, nest? "." items = some es ∧ (flatten es).Perm items := by
  obtain ⟨es, nested, holds⟩ := holds_nest? (by decide) leaves apart
  have keyed : Keyed es := keyed_nest? nested fun item mem => (leaves item mem).keyed
  have undotted : Undotted es := by
    obtain rfl := Option.some.inj ((nest?_eq_some (by decide) items).symm.trans nested)
    exact List.foldlRecOn items _ trivial fun es undotted item mem =>
      undotted_placeKey undotted item.1 (leaves item mem)
  have distinct : items.Nodup := by
    refine apart.imp fun between same => between.1 ?_
    rw [same]
  refine ⟨es, nested, (List.perm_ext_iff_of_nodup ?_ distinct).mpr fun item => ?_⟩
  · exact (nodup_flatten undotted keyed).of_map
  · obtain ⟨name, d⟩ := item
    rw [mem_flatten undotted keyed, holds.leaf, List.mem_map]
    constructor
    · rintro ⟨⟨name', d'⟩, mem, same⟩
      obtain ⟨alike, rfl⟩ := Prod.mk.inj same
      obtain rfl := pathOf_injective alike
      exact mem
    · intro mem
      exact ⟨_, mem, rfl⟩

/-- Flattening and nesting undo each other. A mapping comes back entry by entry, in its order, and
each of its leaves has one dotted name, by which it is found once; keys that are apart come back in
some order. -/
theorem flatten_nest_inverse :
    (∀ es : Entries, Keyed es → Undotted es →
      nest? "." (flatten es) = some es ∧
      ((flatten es).map Prod.fst).Nodup ∧
      ∀ path d, es.HasLeaf path d ↔ ∃! name, path = pathOf "." name ∧ (name, d) ∈ flatten es) ∧
    ∀ items : List (String × Datum), (∀ item ∈ items, item.2.IsLeaf) →
      (items.Pairwise fun a b => Apart (pathOf "." a.1) (pathOf "." b.1)) →
      ∃ es, nest? "." items = some es ∧ (flatten es).Perm items :=
  ⟨fun _ keyed undotted => ⟨nest?_flatten keyed undotted, nodup_flatten undotted keyed,
    hasLeaf_iff_flatten undotted keyed⟩, fun _ => flatten_nest?⟩

section Example

def exampleNested : Entries :=
  [(.text "a", .map [(.text "b", .integer 1), (.text "", .map [(.text "", .integer 2)])]),
    (.text "c", .null)]

theorem flatten_nest_inverse_sections :
    nest? "." (flatten exampleNested) = some exampleNested ∧
      ∃ es, nest? "." [("a.b", .integer 1), ("..", .integer 2), ("a.c", .integer 3)] = some es ∧
        (flatten es).Perm [("a.b", .integer 1), ("..", .integer 2), ("a.c", .integer 3)] := by
  have keyed : Keyed exampleNested := by simp [exampleNested, Keyed, Datum.Keyed]
  have undotted : Undotted exampleNested := by simp [exampleNested, Undotted, Datum.Undotted]
  have first : pathOf "." "a.b" = [.text "a", .text "b"] := rfl
  have second : pathOf "." ".." = [.text "", .text "", .text ""] := rfl
  have third : pathOf "." "a.c" = [.text "a", .text "c"] := rfl
  obtain ⟨nestedAgain, flatAgain⟩ := flatten_nest_inverse
  obtain ⟨back, -, -⟩ := nestedAgain exampleNested keyed undotted
  refine ⟨back, flatAgain _ (by simp [Datum.IsLeaf]) ?_⟩
  simp [first, second, third, Apart, List.cons_prefix_cons]

end Example

end Entries

end Formulary
