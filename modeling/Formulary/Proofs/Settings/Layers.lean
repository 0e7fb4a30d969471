import Formulary.Proofs.Data.Keys
import Formulary.Settings.Layers
import Mathlib.Data.List.Induction

set_option autoImplicit false

namespace Formulary

namespace Entries

def IsSection (es : Entries) (name : String) : Prop :=
  ∀ d, es.named? name = some d → ∃ inner, d = .map inner

theorem isSection_nil (name : String) : IsSection [] name := nofun

theorem isSection_overlay {base top : Entries} (keyed : Keyed top) {name : String}
    (below : base.IsSection name) (above : top.IsSection name) :
    (overlay base top).IsSection name := by
  intro d found
  rw [named?_overlay base keyed] at found
  split at found
  · exact below d found
  · rename_i upper foundTop
    cases found
    obtain ⟨inner, rfl⟩ := above upper foundTop
    cases foundBase : base.named? name with
    | none => exact ⟨inner, rfl⟩
    | some lower =>
        obtain ⟨inner', rfl⟩ := below lower foundBase
        exact ⟨overlay inner' inner, rfl⟩

section Read

variable {α : Type} {read : Datum → α} (alike : ∀ es, read (.map es) = read (.map []))
include alike

theorem read_overlay (base top : Datum) : read (base.overlay top) = read top := by
  cases top with
  | map above =>
      cases base with
      | map below => rw [Datum.overlay, alike, ← alike above]
      | _ => rfl
  | _ => cases base <;> rfl

theorem read_named?_overlay (base : Entries) {top : Entries} (keyed : Keyed top) (name : String) :
    ((overlay base top).named? name).map read =
      ((top.named? name).or (base.named? name)).map read := by
  rw [named?_overlay base keyed]
  cases top.named? name with
  | none => rfl
  | some d => simp [read_overlay alike]

theorem read_under_overlay {base top : Entries} (keyed : Keyed top) {outer : String}
    (below : base.IsSection outer) (above : top.IsSection outer) (name : String) :
    ((under (overlay base top) (.text outer)).named? name).map read =
      (((under top (.text outer)).named? name).or
        ((under base (.text outer)).named? name)).map read := by
  simp only [under_text, named?_overlay base keyed]
  cases foundTop : top.named? outer with
  | none => rfl
  | some upper =>
      obtain ⟨inner, rfl⟩ := above upper foundTop
      cases foundBase : base.named? outer with
      | none => simp [Datum.overlay]
      | some lower =>
          obtain ⟨inner', rfl⟩ := below lower foundBase
          exact read_named?_overlay alike inner' (keyed_of_get? keyed foundTop) name

end Read

end Entries

namespace Settings

inductive Key where
  | profile
  | debug
  | legacyArgumentErrors
  | level
  | format
  | file
  | console

namespace Key

def section? : Key → Option String
  | .profile => none
  | .debug | .legacyArgumentErrors => some "interpreter"
  | .level | .format | .file | .console => some "logging"

def name : Key → String
  | .profile => "profile"
  | .debug => "debug"
  | .legacyArgumentErrors => "legacy_argument_errors"
  | .level => "level"
  | .format => "format"
  | .file => "file"
  | .console => "console"

def Content : Key → Type
  | .profile | .format => String
  | .debug | .legacyArgumentErrors | .console => Bool
  | .level => Level
  | .file => Option String

def read : (key : Key) → Datum → Except Defect key.Content
  | .profile | .format => Field.text
  | .debug | .legacyArgumentErrors | .console => Field.boolean
  | .level => Field.level
  | .file => Field.path?

def of : (key : Key) → Settings → key.Content
  | .profile, s => s.profile
  | .debug, s => s.interpreter.debug
  | .legacyArgumentErrors, s => s.interpreter.legacyArgumentErrors
  | .level, s => s.logging.level
  | .format, s => s.logging.format
  | .file, s => s.logging.file
  | .console, s => s.logging.console

def at? (key : Key) (es : Entries) : Option Datum :=
  match key.section? with
  | none => es.named? key.name
  | some outer => (es.under (.text outer)).named? key.name

def highest? (key : Key) (layers : List Entries) : Option Datum :=
  layers.reverse.findSome? key.at?

theorem read_map (key : Key) (es : Entries) : key.read (.map es) = key.read (.map []) := by
  cases key <;> rfl

end Key

structure Sectioned (es : Entries) : Prop where
  interpreter : es.IsSection "interpreter"
  logging : es.IsSection "logging"

theorem Sectioned.of_key {es : Entries} (sectioned : Sectioned es) {key : Key} {outer : String}
    (inside : key.section? = some outer) : es.IsSection outer := by
  cases key <;> cases inside
  case debug | legacyArgumentErrors => exact sectioned.interpreter
  all_goals exact sectioned.logging

theorem Sectioned.overlay {base top : Entries} (keyed : top.Keyed) (below : Sectioned base)
    (above : Sectioned top) : Sectioned (base.overlay top) where
  interpreter := Entries.isSection_overlay keyed below.interpreter above.interpreter
  logging := Entries.isSection_overlay keyed below.logging above.logging

theorem Sectioned.nil : Sectioned [] := ⟨Entries.isSection_nil _, Entries.isSection_nil _⟩

namespace Key

theorem read_at?_overlay (key : Key) {base top : Entries} (keyed : top.Keyed)
    (below : Sectioned base) (above : Sectioned top) :
    (key.at? (base.overlay top)).map key.read =
      ((key.at? top).or (key.at? base)).map key.read := by
  unfold at?
  split
  · exact Entries.read_named?_overlay key.read_map base keyed key.name
  · rename_i outer inside
    exact Entries.read_under_overlay key.read_map keyed (below.of_key inside)
      (above.of_key inside) key.name

theorem highest?_concat (key : Key) (layers : List Entries) (top : Entries) :
    key.highest? (layers ++ [top]) = (key.at? top).or (key.highest? layers) := by
  rw [highest?, List.reverse_concat, List.findSome?_cons]
  cases key.at? top <;> rfl

end Key

theorem layered_concat (layers : List Entries) (top : Entries) :
    Entries.layered (layers ++ [top]) = (Entries.layered layers).overlay top :=
  List.foldl_concat ..

structure IsLayer (es : Entries) : Prop where
  keyed : es.Keyed
  sectioned : Sectioned es

theorem sectioned_layered {layers : List Entries} (sound : ∀ es ∈ layers, IsLayer es) :
    Sectioned (Entries.layered layers) := by
  induction layers using List.reverseRecOn with
  | nil => exact .nil
  | append_singleton layers top ih =>
      simp only [List.forall_mem_append, List.forall_mem_singleton] at sound
      obtain ⟨lower, ⟨keyed, above⟩⟩ := sound
      rw [layered_concat]
      exact (ih lower).overlay keyed above

/-- Laid over each other, the layers say of a field what the highest one says that has it. -/
theorem read_at?_layered (key : Key) {layers : List Entries} (sound : ∀ es ∈ layers, IsLayer es) :
    (key.at? (Entries.layered layers)).map key.read = (key.highest? layers).map key.read := by
  induction layers using List.reverseRecOn with
  | nil => cases key <;> rfl
  | append_singleton layers top ih =>
      simp only [List.forall_mem_append, List.forall_mem_singleton] at sound
      obtain ⟨lower, ⟨keyed, above⟩⟩ := sound
      rw [layered_concat, key.read_at?_overlay keyed (sectioned_layered lower) above,
        key.highest?_concat]
      cases key.at? top with
      | none => exact ih lower
      | some d => rfl

end Settings

end Formulary
