import Formulary.Proofs.Data.Variables
import Formulary.Proofs.Settings.Layers

set_option autoImplicit false

namespace Formulary.Settings

open Settings.Field

namespace Field

theorem along_eq_ok {α β : Type} {f : Checked (α → β)} {a : Checked α} {b : β} :
    along f a = .ok b ↔ ∃ g, f = .ok g ∧ ∃ x, a = .ok x ∧ g x = b := by
  cases f <;> cases a <;> simp [along]

theorem single_eq_ok {α : Type} {es : Entries} {name : String} {usual : α}
    {read : Datum → Except Defect α} {a : α} :
    single es name usual read = .ok a ↔ ((es.named? name).map read).getD (.ok usual) = .ok a := by
  unfold single Entries.named?
  cases es.get? (.text name) with
  | none => simp
  | some d => exact mapError_eq_ok

theorem nested_eq_ok {α : Type} {es : Entries} {name form : String} (isSection : es.IsSection name)
    {usual : α} {read : Entries → Checked α} (empty : read [] = .ok usual) {a : α} :
    nested es name form usual read = .ok a ↔ read (es.under (.text name)) = .ok a := by
  unfold nested Entries.under
  cases found : es.get? (.text name) with
  | none => rw [empty]
  | some d =>
      obtain ⟨inner, rfl⟩ := isSection d found
      exact mapError_eq_ok

end Field

def Key.found (key : Key) (es : Entries) : Except Defect key.Content :=
  ((key.at? es).map key.read).getD (.ok (key.of {}))

theorem interpreter_nil : InterpreterSettings.ofEntries [] = .ok {} := rfl

theorem logging_nil : LoggingSettings.ofEntries [] = .ok {} := rfl

theorem interpreter_eq_ok {es : Entries} {s : InterpreterSettings} :
    InterpreterSettings.ofEntries es = .ok s ↔
      single es "debug" false boolean = .ok s.debug ∧
        single es "legacy_argument_errors" false boolean = .ok s.legacyArgumentErrors := by
  constructor
  · intro read
    obtain ⟨_, upToDebug, legacy, second, rfl⟩ := along_eq_ok.mp read
    obtain ⟨_, made, debug, first, rfl⟩ := along_eq_ok.mp upToDebug
    cases made
    exact ⟨first, second⟩
  · rintro ⟨first, second⟩
    rw [InterpreterSettings.ofEntries, first, second]
    rfl

theorem logging_eq_ok {es : Entries} {s : LoggingSettings} :
    LoggingSettings.ofEntries es = .ok s ↔
      single es "level" ({} : LoggingSettings).level Field.level = .ok s.level ∧
        single es "format" ({} : LoggingSettings).format text = .ok s.format ∧
        single es "file" ({} : LoggingSettings).file path? = .ok s.file ∧
        single es "console" ({} : LoggingSettings).console boolean = .ok s.console := by
  constructor
  · intro read
    obtain ⟨_, upToFile, console, fourth, rfl⟩ := along_eq_ok.mp read
    obtain ⟨_, upToFormat, file, third, rfl⟩ := along_eq_ok.mp upToFile
    obtain ⟨_, upToLevel, format, second, rfl⟩ := along_eq_ok.mp upToFormat
    obtain ⟨_, made, level, first, rfl⟩ := along_eq_ok.mp upToLevel
    cases made
    exact ⟨first, second, third, fourth⟩
  · rintro ⟨first, second, third, fourth⟩
    rw [LoggingSettings.ofEntries, first, second, third, fourth]
    rfl

theorem sections_eq_ok {es : Entries} (sectioned : Sectioned es) {s : Settings} :
    ofEntries es = .ok s ↔
      single es "profile" "default" text = .ok s.profile ∧
        InterpreterSettings.ofEntries (es.under (.text "interpreter")) = .ok s.interpreter ∧
        LoggingSettings.ofEntries (es.under (.text "logging")) = .ok s.logging := by
  constructor
  · intro read
    obtain ⟨_, upToInterpreter, logging, third, rfl⟩ := along_eq_ok.mp read
    obtain ⟨_, upToProfile, interpreter, second, rfl⟩ := along_eq_ok.mp upToInterpreter
    obtain ⟨_, made, profile, first, rfl⟩ := along_eq_ok.mp upToProfile
    cases made
    exact ⟨first, (nested_eq_ok sectioned.interpreter interpreter_nil).mp second,
      (nested_eq_ok sectioned.logging logging_nil).mp third⟩
  · rintro ⟨first, second, third⟩
    rw [ofEntries, first, (nested_eq_ok sectioned.interpreter interpreter_nil).mpr second,
      (nested_eq_ok sectioned.logging logging_nil).mpr third]
    rfl

theorem ofEntries_eq_ok {es : Entries} (sectioned : Sectioned es) {s : Settings} :
    ofEntries es = .ok s ↔ ∀ key : Key, key.found es = .ok (key.of s) := by
  rw [sections_eq_ok sectioned, interpreter_eq_ok, logging_eq_ok]
  simp only [single_eq_ok]
  constructor
  · rintro ⟨profile, ⟨debug, legacy⟩, level, format, file, console⟩ key
    cases key
    · exact profile
    · exact debug
    · exact legacy
    · exact level
    · exact format
    · exact file
    · exact console
  · intro each
    exact ⟨each .profile, ⟨each .debug, each .legacyArgumentErrors⟩, each .level, each .format,
      each .file, each .console⟩

theorem isLayer_toEntries (s : Settings) : IsLayer s.toEntries where
  keyed := by
    have file : s.logging.fileDatum.Keyed := by
      unfold LoggingSettings.fileDatum
      cases s.logging.file <;> trivial
    simpa [toEntries, InterpreterSettings.toEntries, LoggingSettings.toEntries, Entries.Keyed,
      Datum.Keyed] using file
  sectioned := {
    interpreter := fun _ found => ⟨_, (Option.some.inj found).symm⟩
    logging := fun _ found => ⟨_, (Option.some.inj found).symm⟩ }

theorem keyed_loadYaml {folder : Folder} {path : String} {es : Entries}
    (read : folder.loadYaml path = .ok es) : es.Keyed := by
  unfold Folder.loadYaml at read
  simp only at read
  split at read
  · cases read
  · split at read
    · cases read
    · cases read
      trivial
    · rename_i loaded
      cases read
      exact Yaml.keyed_load loaded
    · cases read

theorem keyed_fileEntries {folder : Folder} {file : Option String} {es : Entries}
    (read : fileEntries folder file = .ok es) : es.Keyed := by
  cases file with
  | none =>
      cases read
      trivial
  | some path =>
      rw [fileEntries] at read
      exact keyed_loadYaml read

theorem keyed_environmentEntries {env : Environment} {homes : Path.Homes} {isUsed : Bool}
    {es : Entries} (read : environmentEntries env homes isUsed = .ok es) : es.Keyed := by
  unfold environmentEntries at read
  split at read
  · split at read
    · rename_i spoken
      cases read
      exact Environment.keyed_entries? spoken
    · cases read
  · cases read
    trivial

theorem keyed_overrideEntries {overrides : List (String × Datum)}
    (inside : ∀ o ∈ overrides, o.2.Keyed) : (overrideEntries overrides).Keyed := by
  unfold overrideEntries
  cases nested : Entries.nest? Environment.nestingSeparator overrides with
  | none => trivial
  | some es => exact Entries.keyed_nest? nested inside

namespace Key

/-- The highest layer that has a field says something valid of it. -/
def Gives (key : Key) (layers : List Entries) (v : key.Content) : Prop :=
  ∃ d, key.highest? layers = some d ∧ key.read d = .ok v

theorem highest?_isSome (key : Key) (base : Settings) (layers : List Entries) :
    (key.highest? (base.toEntries :: layers)).isSome = true := by
  have told : (key.at? base.toEntries).isSome = true := by cases key <;> rfl
  rw [highest?, List.findSome?_isSome_iff]
  exact ⟨base.toEntries, by simp, told⟩

theorem found_layered (key : Key) {base : Settings} {layers : List Entries}
    (sound : ∀ es ∈ layers, IsLayer es) {v : key.Content} :
    key.found (Entries.layered (base.toEntries :: layers)) = .ok v ↔
      key.Gives (base.toEntries :: layers) v := by
  have all : ∀ es ∈ base.toEntries :: layers, IsLayer es :=
    List.forall_mem_cons.mpr ⟨isLayer_toEntries base, sound⟩
  obtain ⟨d, told⟩ := Option.isSome_iff_exists.mp (key.highest?_isSome base layers)
  rw [found, read_at?_layered key all, Gives, told]
  simp

end Key

def ofContents (v : ∀ key : Key, key.Content) : Settings where
  profile := v .profile
  interpreter := { debug := v .debug, legacyArgumentErrors := v .legacyArgumentErrors }
  logging := {
    level := v .level
    format := v .format
    file := v .file
    console := v .console }

theorem of_ofContents (v : ∀ key : Key, key.Content) (key : Key) : key.of (ofContents v) = v key := by
  cases key <;> rfl

theorem ofEntries_layered {base : Settings} {layers : List Entries}
    (sound : ∀ es ∈ layers, IsLayer es) {s : Settings} :
    ofEntries (Entries.layered (base.toEntries :: layers)) = .ok s ↔
      ∀ key : Key, key.Gives (base.toEntries :: layers) (key.of s) := by
  have all : ∀ es ∈ base.toEntries :: layers, IsLayer es :=
    List.forall_mem_cons.mpr ⟨isLayer_toEntries base, sound⟩
  rw [ofEntries_eq_ok (sectioned_layered all)]
  exact forall_congr' fun key => key.found_layered sound

/-- Some variable that is used speaks of the home of somebody unknown. -/
def losesHome (env : Environment) (homes : Path.Homes) (isUsed : Bool) : Bool :=
  isUsed && env.any fun v =>
    (Environment.afterStart? variableStart v.1).isSome &&
      (Environment.datum? (env.homes homes) v.2).isNone

theorem losesHome_iff {env : Environment} {homes : Path.Homes} {isUsed : Bool} :
    losesHome env homes isUsed = true ↔
      isUsed = true ∧ env.entries? (env.homes homes) variableStart = none := by
  simp only [losesHome, Bool.and_eq_true, List.any_eq_true, Option.isNone_iff_eq_none,
    Environment.entries?_eq_none]

theorem environmentEntries_lost {env : Environment} {homes : Path.Homes} {isUsed : Bool}
    (lost : losesHome env homes isUsed = true) :
    environmentEntries env homes isUsed = .error .unknownHome := by
  obtain ⟨used, unspoken⟩ := losesHome_iff.mp lost
  rw [environmentEntries, if_pos used, unspoken]

theorem environmentEntries_kept {env : Environment} {homes : Path.Homes} {isUsed : Bool}
    (kept : losesHome env homes isUsed = false) :
    ∃ es, environmentEntries env homes isUsed = .ok es := by
  cases isUsed with
  | false => exact ⟨[], rfl⟩
  | true =>
      cases spoken : env.entries? (env.homes homes) variableStart with
      | none =>
          rw [losesHome_iff.mpr ⟨rfl, spoken⟩] at kept
          cases kept
      | some es => exact ⟨es, by rw [environmentEntries, if_pos rfl, spoken]⟩

section Load

variable {folder : Folder} {env : Environment} {name : String} {sources : Sources}
  {base : Settings} {file : Entries}

theorem load_lost (registered : named? name = some base)
    (readable : fileEntries folder sources.file = .ok file)
    (lost : losesHome env sources.homes sources.useEnvironment = true) :
    load folder env name sources = .error .unknownHome := by
  rw [load, profileEntries, registered, readable, environmentEntries_lost lost]
  rfl

theorem load_eq_ok {outside : Entries} (registered : named? name = some base)
    (readable : fileEntries folder sources.file = .ok file)
    (spoken : environmentEntries env sources.homes sources.useEnvironment = .ok outside)
    {s : Settings} :
    load folder env name sources = .ok s ↔
      ofEntries (Entries.layered
        [base.toEntries, file, outside, overrideEntries sources.overrides]) = .ok s := by
  rw [load, profileEntries, registered, readable, spoken]
  exact mapError_eq_ok

/-- Every field is what the highest layer that has it says, and loading succeeds if and only if
these seven are valid: nothing else in the layers counts. The environment is a layer unless a
variable speaks of an unknown home; that ends loading, whichever field the variable names and
whether there is such a field or not. -/
theorem load_takes_highest (registered : named? name = some base)
    (readable : fileEntries folder sources.file = .ok file) (filed : Sectioned file)
    (inside : ∀ o ∈ sources.overrides, o.2.Keyed)
    (overriding : Sectioned (overrideEntries sources.overrides)) :
    (losesHome env sources.homes sources.useEnvironment = true →
      load folder env name sources = .error .unknownHome) ∧
    (losesHome env sources.homes sources.useEnvironment = false →
      ∃ outside, environmentEntries env sources.homes sources.useEnvironment = .ok outside ∧
        (Sectioned outside →
          let layers := [base.toEntries, file, outside, overrideEntries sources.overrides]
          (∀ s, load folder env name sources = .ok s ↔
            ∀ key : Key, key.Gives layers (key.of s)) ∧
          ((∃ s, load folder env name sources = .ok s) ↔
            ∀ key : Key, ∃ v, key.Gives layers v))) := by
  constructor
  · exact load_lost registered readable
  · intro kept
    obtain ⟨outside, spoken⟩ := environmentEntries_kept kept
    refine ⟨outside, spoken, fun outer => ?_⟩
    intro layers
    have sound : ∀ es ∈ [file, outside, overrideEntries sources.overrides], IsLayer es := by
      simp only [List.forall_mem_cons]
      exact ⟨⟨keyed_fileEntries readable, filed⟩, ⟨keyed_environmentEntries spoken, outer⟩,
        ⟨keyed_overrideEntries inside, overriding⟩, nofun⟩
    have each (s : Settings) : load folder env name sources = .ok s ↔
        ∀ key : Key, key.Gives layers (key.of s) :=
      (load_eq_ok registered readable spoken).trans (ofEntries_layered sound)
    refine ⟨each, ?_⟩
    constructor
    · rintro ⟨s, loaded⟩ key
      exact ⟨key.of s, (each s).mp loaded key⟩
    · intro valid
      -- No field asks for another one, so the valid ones make settings together.
      choose v gives using valid
      refine ⟨ofContents v, (each _).mpr fun key => ?_⟩
      rw [of_ofContents]
      exact gives key

end Load

theorem load_takes_highest_level :
    load [] [("HOME", "/home/user"), ("SHEETCALC_LOGGING__LEVEL", "loud")] "test"
        { overrides := [("logging__level", .text "error")] } =
      .ok { profile := "test", logging := { level := .error, console := false } } := by
  have overriding : Sectioned (overrideEntries [("logging__level", .text "error")]) :=
    ⟨nofun, fun _ found => ⟨_, (Option.some.inj found).symm⟩⟩
  have inside : ∀ o ∈ [("logging__level", Datum.text "error")], o.2.Keyed :=
    List.forall_mem_singleton.mpr trivial
  obtain ⟨-, kept⟩ := @load_takes_highest []
    [("HOME", "/home/user"), ("SHEETCALC_LOGGING__LEVEL", "loud")] "test"
    { overrides := [("logging__level", .text "error")] } forTests [] rfl rfl .nil inside overriding
  obtain ⟨outside, spoken, given⟩ := kept rfl
  cases spoken
  have outer : Sectioned [(.text "logging", .map [(.text "level", .text "loud")])] :=
    ⟨nofun, fun _ found => ⟨_, (Option.some.inj found).symm⟩⟩
  refine ((given outer).1 _).mpr fun key => ?_
  cases key <;> exact ⟨_, rfl, rfl⟩

theorem load_lost_note :
    load [] [("HOME", "/home/user"), ("SHEETCALC_NOTE", "./~draft")] "default" {} =
        .error .unknownHome ∧
      ∀ (d : Datum) (key : Key),
        key.Gives [({} : Settings).toEntries, [], [(.text "note", d)], []] (key.of {}) := by
  constructor
  · rfl
  · intro d key
    cases key <;> exact ⟨_, rfl, rfl⟩

end Formulary.Settings
