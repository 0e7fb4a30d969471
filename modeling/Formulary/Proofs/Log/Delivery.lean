import Formulary.Log.Logger
import Formulary.Proofs.Data.Places

set_option autoImplicit false

namespace Formulary.Log

inductive Request where
  | configure (s : LoggingSettings)
  | send (r : Record)

structure State where
  logger : Logger := {}
  world : World

namespace State

def next (x : State) : Request → State
  | .configure s =>
      let (logger, world, _) := Logger.configure s x.world
      { logger := logger, world := world }
  | .send r => { x with world := x.logger.send r x.world }

def after (x : State) (requests : List Request) : State := requests.foldl next x

/-- Each log file that is asked for can be opened when it is asked for. -/
def Opens : State → List Request → Prop
  | _, [] => True
  | x, .configure s :: rest =>
      (∀ path ∈ s.file, (x.world.files.makeWay path).isOk = true) ∧
        Opens (x.next (.configure s)) rest
  | x, .send r :: rest => Opens (x.next (.send r)) rest

instance decidableOpens : (x : State) → (requests : List Request) → Decidable (x.Opens requests)
  | _, [] => inferInstanceAs (Decidable True)
  | x, .configure s :: rest =>
      have := decidableOpens (x.next (.configure s)) rest
      inferInstanceAs (Decidable (_ ∧ _))
  | x, .send r :: rest => decidableOpens (x.next (.send r)) rest

end State

section Texts

namespace World

def text (w : World) : Outlet → String
  | .console => w.console
  | .file place => w.files.content place
  | .nowhere => ""

theorem text_append_self (w : World) (place : List String) (line : String) :
    (w.append place line).files.content place = w.files.content place ++ line := by
  simp [append, Folder.content, Folder.lookup_put_self]

theorem text_append_other {place other : List String} (apart : other ≠ place) (w : World)
    (line : String) : (w.append place line).files.content other = w.files.content other := by
  simp [append, Folder.content_put_other apart]

end World

end Texts

section Lines

namespace Format

def fitsPart (fields : List (String × Field)) : Part → Bool
  | .plain _ => true
  | .slot s =>
      s.key.any fun name =>
        (fields.lookup name).any fun f => (s.show? (some (.field f))).isSome

def fits (format : String) (r : Record) : Bool :=
  let cs := (orUsual format).toList
  (parts? cs.length cs).any (·.all (fitsPart (r.fields (asksTime cs))))

end Format

end Lines

section Destinations

end Destinations

section Setup

variable {s : LoggingSettings} {w : World}

theorem text_append_empty (w : World) (place : List String) (o : Outlet) :
    (w.append place "").text o = w.text o := by
  cases o with
  | console | nowhere => rfl
  | file other =>
      by_cases here : other = place
      · subst here
        simp [World.text, World.text_append_self]
      · exact World.text_append_other here w ""

theorem fileOutlets_of_opens (opens : ∀ path ∈ s.file, (w.files.makeWay path).isOk = true) :
    ∃ w', Logger.fileOutlets s w =
        .ok ((s.file.map fun path => Outlet.file (Folder.target path)).toList, w') ∧
      ∀ o, w'.text o = w.text o := by
  cases file : s.file with
  | none => exact ⟨w, by simp [Logger.fileOutlets, file], fun _ => rfl⟩
  | some path =>
      cases way : w.files.makeWay path with
      | error _ => simpa [way, Except.isOk, Except.toBool] using opens path file
      | ok made =>
          refine ⟨_, by simp only [Logger.fileOutlets, file, way]; rfl, fun o => ?_⟩
          rw [text_append_empty]
          cases o with
          | console | nowhere => rfl
          | file place => exact Folder.content_makeWay way place

theorem fileOutlets_of_blocked (blocked : ¬∀ path ∈ s.file, (w.files.makeWay path).isOk = true) :
    ∃ fault, Logger.fileOutlets s w = .error fault := by
  cases file : s.file with
  | none => exact absurd (by simp [file]) blocked
  | some path =>
      cases way : w.files.makeWay path with
      | error obstacle => exact ⟨.file obstacle, by simp only [Logger.fileOutlets, file, way]; rfl⟩
      | ok made => exact absurd (by simp [file, way, Except.isOk, Except.toBool]) blocked

theorem configure_eq_ok :
    (Logger.configure s w).2.2 = .ok () ↔
      Format.isAccepted s.format = true ∧ ∀ path ∈ s.file, (w.files.makeWay path).isOk = true := by
  by_cases accepted : Format.isAccepted s.format = true
  · simp only [Logger.configure, accepted, Bool.not_true, Bool.false_eq_true, if_false, true_and]
    by_cases opens : ∀ path ∈ s.file, (w.files.makeWay path).isOk = true
    · obtain ⟨w', outlets, -⟩ := fileOutlets_of_opens opens
      simp only [outlets]
      exact ⟨fun _ => opens, fun _ => trivial⟩
    · obtain ⟨fault, blocked⟩ := fileOutlets_of_blocked opens
      simp only [blocked]
      exact ⟨nofun, fun opens' => absurd opens' opens⟩
  · simp [Logger.configure, accepted]

end Setup

section History

end History

end Formulary.Log
