import Formulary.Proofs.Data.Keys

set_option autoImplicit false

namespace Formulary

namespace Datum

@[elab_as_elim]
theorem induction_on {P : Datum → Prop} (leaf : ∀ d, d.IsLeaf → P d)
    (map : ∀ es : Entries, (∀ e ∈ es, P e.2) → P (.map es)) : ∀ d, P d
  | .map es => map es fun e mem => by
      have smaller := List.sizeOf_lt_of_mem mem
      exact induction_on leaf map e.2
  | .scalar s => leaf (.scalar s) trivial
  | .path p => leaf (.path p) trivial
  | .value v => leaf (.value v) trivial
  | .list items => leaf (.list items) trivial
  | .pair first second => leaf (.pair first second) trivial
  | .set items => leaf (.set items) trivial
termination_by d => sizeOf d
decreasing_by
  obtain ⟨key, d⟩ := e
  simp only [Datum.map.sizeOf_spec, Prod.mk.sizeOf_spec] at smaller ⊢
  omega

def at? : Datum → List Scalar → Option Datum
  | d, [] => some d
  | .map es, key :: keys => (Entries.get? es key).bind (at? · keys)
  | _, _ :: _ => none

@[simp] theorem at?_nil (d : Datum) : d.at? [] = some d := by
  cases d <;> rfl

@[simp] theorem at?_map (es : Entries) (key : Scalar) (keys : List Scalar) :
    (map es).at? (key :: keys) = (Entries.get? es key).bind (at? · keys) := rfl

theorem at?_leaf {d : Datum} (leaf : d.IsLeaf) (key : Scalar) (keys : List Scalar) :
    d.at? (key :: keys) = none := by
  cases d with
  | map es => exact leaf.elim
  | _ => rfl

theorem isLeaf_or_map (d : Datum) : d.IsLeaf ∨ ∃ es, d = .map es := by
  cases d with
  | map es => exact .inr ⟨es, rfl⟩
  | _ => exact .inl trivial

theorem overlay_leaf {top : Datum} (leaf : top.IsLeaf) (base : Datum) : base.overlay top = top := by
  cases top with
  | map es => exact leaf.elim
  | _ => cases base <;> rfl

theorem leaf_overlay {base : Datum} (leaf : base.IsLeaf) (top : Datum) :
    base.overlay top = top := by
  cases base with
  | map es => exact leaf.elim
  | _ => cases top <;> rfl

@[simp] theorem null_overlay (top : Datum) : null.overlay top = top := by
  have leaf : null.IsLeaf := trivial
  exact leaf_overlay leaf top

theorem isLeaf_overlay {base top : Datum} : (base.overlay top).IsLeaf ↔ top.IsLeaf := by
  cases base <;> cases top <;> exact Iff.rfl

/-- Some leaf is met before the end of a path. -/
def Blocks (d : Datum) (keys : List Scalar) : Prop :=
  ∃ before, before <+: keys ∧ before ≠ keys ∧ ∃ leaf, d.at? before = some leaf ∧ leaf.IsLeaf

theorem blocks_leaf {d : Datum} (leaf : d.IsLeaf) (key : Scalar) (keys : List Scalar) :
    d.Blocks (key :: keys) :=
  ⟨[], List.nil_prefix, nofun, d, at?_nil d, leaf⟩

theorem blocks_map {es : Entries} {key : Scalar} {keys : List Scalar} :
    (map es).Blocks (key :: keys) ↔ ∃ d, Entries.get? es key = some d ∧ d.Blocks keys := by
  constructor
  · rintro ⟨before, front, other, leaf, found, isLeaf⟩
    cases before with
    | nil =>
        cases (at?_nil _).symm.trans found
        exact isLeaf.elim
    | cons k before =>
        obtain ⟨rfl, further⟩ := List.cons_prefix_cons.mp front
        obtain ⟨d, here, found⟩ := Option.bind_eq_some_iff.mp found
        exact ⟨d, here, before, further, fun same => other (by rw [same]), leaf, found, isLeaf⟩
  · rintro ⟨d, here, before, front, other, leaf, found, isLeaf⟩
    refine ⟨key :: before, List.cons_prefix_cons.mpr ⟨rfl, front⟩, by simpa using other, leaf, ?_,
      isLeaf⟩
    rw [at?_map, here]
    exact found

open Classical in
/-- Where data is laid over other data, a path leads to what it leads to above, laid over what it
leads to below; where it leads nowhere above, to what it leads to below, unless it is blocked. -/
theorem at?_overlay {top : Datum} (keyed : top.Keyed) (base : Datum) (keys : List Scalar) :
    (base.overlay top).at? keys =
      match top.at? keys with
      | some d => some (((base.at? keys).getD .null).overlay d)
      | none => if top.Blocks keys then none else base.at? keys := by
  induction keys generalizing base top with
  | nil => simp
  | cons key keys ih =>
      obtain leaf | ⟨es, rfl⟩ := top.isLeaf_or_map
      · rw [overlay_leaf leaf, at?_leaf leaf]
        exact (if_pos (blocks_leaf leaf key keys)).symm
      obtain leaf | ⟨bs, rfl⟩ := base.isLeaf_or_map
      · rw [leaf_overlay leaf, at?_leaf leaf, at?_map]
        cases (Entries.get? es key).bind (at? · keys) with
        | none => exact (ite_self none).symm
        | some d => exact congrArg some (null_overlay d).symm
      simp only [overlay, at?_map, Entries.get?_overlay bs keyed, blocks_map]
      cases foundTop : Entries.get? es key with
      | none => simp
      | some d =>
          have inside := ih (Entries.keyed_of_get? keyed foundTop)
            ((Entries.get? bs key).getD .null)
          simp only [Option.bind_some, Option.some.injEq, exists_eq_left']
          rw [inside]
          -- Nothing below leads to nothing, and so does a null, but for the end of the path.
          cases foundBase : Entries.get? bs key with
          | some b => rfl
          | none =>
              cases keys with
              | nil => simp
              | cons next keys => rfl

end Datum

namespace Entries

theorem overlay_nil_single (key : Scalar) (d : Datum) : overlay [] [(key, d)] = [(key, d)] := by
  have none : (get? [] key).getD .null = .null := rfl
  rw [overlay, overlay, none, Datum.null_overlay, put]

def HasLeaf (es : Entries) (path : List Scalar) (d : Datum) : Prop :=
  (Datum.map es).at? path = some d ∧ d.IsLeaf

/-- A path of a mapping leads to a mapping, which may be empty. -/
def HasSection (es : Entries) (path : List Scalar) : Prop :=
  ∃ inner, (Datum.map es).at? path = some (.map inner)

/-- Nothing lies at the end of a path, and no leaf on the way. -/
structure HasRoom (es : Entries) (path : List Scalar) : Prop where
  nothing : (Datum.map es).at? path = none
  unblocked : ∀ before, before <+: path → before ≠ path → ∀ d, ¬ es.HasLeaf before d

theorem hasRoom_iff {es : Entries} {path : List Scalar} :
    es.HasRoom path ↔ (Datum.map es).at? path = none ∧ ¬ (Datum.map es).Blocks path := by
  constructor
  · rintro ⟨nothing, unblocked⟩
    refine ⟨nothing, ?_⟩
    rintro ⟨before, front, other, leaf, found⟩
    exact unblocked before front other leaf found
  · rintro ⟨nothing, unblocked⟩
    exact ⟨nothing, fun before front other leaf found =>
      unblocked ⟨before, front, other, leaf, found⟩⟩

section Overlay

variable {base top : Entries} (keyed : Keyed top) (path : List Scalar)
include keyed

open Classical in
theorem at?_overlay :
    (Datum.map (overlay base top)).at? path =
      match (Datum.map top).at? path with
      | some d => some ((((Datum.map base).at? path).getD .null).overlay d)
      | none => if top.HasRoom path then (Datum.map base).at? path else none := by
  have led := @Datum.at?_overlay (.map top) keyed (.map base) path
  rw [Datum.overlay] at led
  rw [led, hasRoom_iff]
  cases found : (Datum.map top).at? path with
  | some d => rfl
  | none => simp [ite_not]

theorem hasLeaf_overlay (d : Datum) :
    (overlay base top).HasLeaf path d ↔
      top.HasLeaf path d ∨ base.HasLeaf path d ∧ top.HasRoom path := by
  unfold HasLeaf
  rw [at?_overlay keyed]
  cases found : (Datum.map top).at? path with
  | some upper =>
      have full : ¬ top.HasRoom path := fun room => by simp [room.nothing] at found
      simp only [Option.some.injEq, full, and_false, or_false]
      constructor
      · rintro ⟨rfl, leaf⟩
        exact ⟨(Datum.overlay_leaf (Datum.isLeaf_overlay.mp leaf) _).symm, leaf⟩
      · rintro ⟨rfl, leaf⟩
        exact ⟨Datum.overlay_leaf leaf _, leaf⟩
  | none => by_cases room : top.HasRoom path <;> simp [room]

theorem hasSection_overlay :
    (overlay base top).HasSection path ↔
      top.HasSection path ∨ base.HasSection path ∧ top.HasRoom path := by
  unfold HasSection
  rw [at?_overlay keyed]
  cases found : (Datum.map top).at? path with
  | some upper =>
      have full : ¬ top.HasRoom path := fun room => by simp [room.nothing] at found
      simp only [Option.some.injEq, full, and_false, or_false]
      obtain leaf | ⟨es, rfl⟩ := upper.isLeaf_or_map
      · rw [Datum.overlay_leaf leaf]
      · obtain leaf | ⟨bs, same⟩ := (((Datum.map base).at? path).getD .null).isLeaf_or_map
        · rw [Datum.leaf_overlay leaf]
        · rw [same]
          exact ⟨fun _ => ⟨es, rfl⟩, fun _ => ⟨overlay bs es, rfl⟩⟩
  | none => by_cases room : top.HasRoom path <;> simp [room]

end Overlay

section Again

theorem put_self {es : Entries} {key : Scalar} {d : Datum} (found : es.get? key = some d) :
    put es key d = es := by
  induction es with
  | nil => cases found
  | cons e es ih =>
      obtain ⟨k, old⟩ := e
      rw [get?_cons] at found
      rw [put]
      split
      · next here =>
          rw [if_pos here] at found
          rw [Option.some.inj found]
      · next differs =>
          rw [if_neg differs] at found
          rw [ih found]

theorem overlay_eq_base {base top : Entries}
    (each : ∀ e ∈ top, ∃ d, base.get? e.1 = some d ∧ d.overlay e.2 = d) :
    overlay base top = base := by
  induction top with
  | nil => rfl
  | cons e top ih =>
      obtain ⟨⟨d, found, same⟩, others⟩ := List.forall_mem_cons.mp each
      rw [overlay, found, Option.getD_some, same, put_self found, ih others]

end Again

end Entries

namespace Datum

theorem overlay_again {top : Datum} (keyed : top.Keyed) (base : Datum) :
    (base.overlay top).overlay top = base.overlay top := by
  induction top using Datum.induction_on generalizing base with
  | leaf top leaf => rw [overlay_leaf leaf, overlay_leaf leaf]
  | map es inside =>
      have found (e : Scalar × Datum) (mem : e ∈ es) : Entries.get? es e.1 = some e.2 :=
        Entries.get?_of_mem keyed mem
      have again (e : Scalar × Datum) (mem : e ∈ es) (below : Datum) :
          (below.overlay e.2).overlay e.2 = below.overlay e.2 :=
        inside e mem (Entries.keyed_of_get? keyed (found e mem)) below
      obtain leaf | ⟨bs, rfl⟩ := base.isLeaf_or_map
      · rw [leaf_overlay leaf, overlay, Entries.overlay_eq_base]
        intro e mem
        have same := again e mem .null
        rw [null_overlay] at same
        exact ⟨e.2, found e mem, same⟩
      · rw [overlay, overlay, Entries.overlay_eq_base]
        intro e mem
        refine ⟨_, ?_, again e mem ((Entries.get? bs e.1).getD .null)⟩
        rw [Entries.get?_overlay bs keyed, found e mem]

end Datum

namespace Entries

/-- A mapping is laid over another one path by path. A leaf lies at a path if the upper mapping has
it there, or if the lower one has it there and the upper one leaves room for it; nothing comes from
elsewhere, and laying the upper mapping over the result again changes nothing. -/
theorem overlay_path_by_path (base : Entries) {top : Entries} (keyed : Keyed top) :
    (∀ path d, (overlay base top).HasLeaf path d ↔
      top.HasLeaf path d ∨ base.HasLeaf path d ∧ top.HasRoom path) ∧
    (∀ path d, (overlay base top).HasLeaf path d → base.HasLeaf path d ∨ top.HasLeaf path d) ∧
    (∀ path, (overlay base top).HasSection path → base.HasSection path ∨ top.HasSection path) ∧
    overlay (overlay base top) top = overlay base top := by
  refine ⟨hasLeaf_overlay keyed, ?_, ?_, ?_⟩
  · intro path d found
    obtain upper | ⟨lower, -⟩ := (hasLeaf_overlay keyed path d).mp found
    · exact .inr upper
    · exact .inl lower
  · intro path found
    obtain upper | ⟨lower, -⟩ := (hasSection_overlay keyed path).mp found
    · exact .inr upper
    · exact .inl lower
  · have again := @Datum.overlay_again (.map top) keyed (.map base)
    exact Datum.map.inj again

section Example

def exampleBase : Entries :=
  [(.text "a", .map [(.text "x", .integer 1), (.text "y", .map [(.text "z", .integer 2)])]),
    (.text "b", .integer 3)]

def exampleTop : Entries :=
  [(.text "a", .map [(.text "y", .integer 4)]), (.text "b", .map [])]

theorem overlay_path_by_path_conflicts :
    (overlay exampleBase exampleTop).HasLeaf [.text "a", .text "x"] (.integer 1) ∧
      ¬ (overlay exampleBase exampleTop).HasLeaf [.text "a", .text "y", .text "z"] (.integer 2) ∧
      ¬ (overlay exampleBase exampleTop).HasLeaf [.text "b"] (.integer 3) ∧
      overlay (overlay exampleBase exampleTop) exampleTop = overlay exampleBase exampleTop := by
  have keyed : Keyed exampleTop := by simp [exampleTop, Keyed, Datum.Keyed]
  obtain ⟨leaves, -, -, again⟩ := overlay_path_by_path exampleBase keyed
  refine ⟨?_, ?_, ?_, again⟩
  · rw [leaves, hasRoom_iff]
    refine .inr ⟨⟨rfl, trivial⟩, rfl, fun blocked => ?_⟩
    obtain ⟨d, found, blocked⟩ := Datum.blocks_map.mp blocked
    cases found
    obtain ⟨d, found, -⟩ := Datum.blocks_map.mp blocked
    cases found
  · rw [leaves]
    rintro (⟨found, -⟩ | ⟨-, room⟩)
    · cases found
    · exact room.unblocked [.text "a", .text "y"] (by simp) (by simp) (.integer 4) ⟨rfl, trivial⟩
  · rw [leaves]
    rintro (⟨found, -⟩ | ⟨-, room⟩)
    · cases found
    · cases room.nothing

end Example

end Entries

end Formulary
