import Formulary.Output
import Formulary.Proofs.Data.Paths
import Formulary.Proofs.Data.Places
import Formulary.Proofs.Settings.Load
import Formulary.Proofs.Yaml.Printed
import Formulary.Proofs.Yaml.Tokens

set_option autoImplicit false

namespace Formulary

namespace Entries

theorem named?_append (es others : Entries) (name : String) :
    named? (es ++ others) name = (es.named? name).or (others.named? name) := by
  induction es with
  | nil => rfl
  | cons e es ih =>
      obtain ⟨key, d⟩ := e
      by_cases here : key = .text name
      · subst here
        simp
      · rw [List.cons_append, named?_cons_other here, named?_cons_other here, ih]

theorem named?_present (name : String) (d : Datum) (isThere : Bool) (other : String) :
    (Settings.present (name, d) isThere).named? other =
      if name = other ∧ isThere = true then some d else none := by
  cases isThere with
  | false => simp [Settings.present]
  | true =>
      by_cases here : name = other
      · simp [Settings.present, here]
      · have other : Scalar.text name ≠ .text other := by simpa using here
        simp [Settings.present, here, named?_cons_other other]

end Entries

namespace Yaml

theorem wordedEntries_append {es others : Entries} (first : WordedEntries es)
    (second : WordedEntries others) : WordedEntries (es ++ others) := by
  induction es with
  | nil => exact second
  | cons e es ih => exact ⟨first.1, first.2.1, ih first.2.2⟩

theorem worded_text (text : String) : Worded (.text text) := trivial

theorem worded_boolean (b : Bool) : Worded (.boolean b) := trivial

theorem worded_present {name : String} {d : Datum} (worded : Worded d) (isThere : Bool) :
    WordedEntries (Settings.present (name, d) isThere) := by
  cases isThere with
  | false => trivial
  | true => exact ⟨⟨name, rfl⟩, worded, trivial⟩

end Yaml

namespace Settings

section Written

open Yaml

variable {s : Settings}

theorem worded_fileDatum (s : LoggingSettings) : Worded s.fileDatum := by
  unfold LoggingSettings.fileDatum
  cases s.file <;> trivial

theorem worded_toEntries (s : Settings) : WordedEntries s.toEntries := by
  simp [toEntries, InterpreterSettings.toEntries, LoggingSettings.toEntries, WordedEntries, Worded,
    worded_fileDatum]

theorem worded_changedEntries (s : Settings) : WordedEntries s.changedEntries := by
  have truth (name : String) (b isThere : Bool) :
      WordedEntries (present (name, .boolean b) isThere) :=
    worded_present (worded_boolean b) isThere
  have text (name word : String) (isThere : Bool) :
      WordedEntries (present (name, .text word) isThere) :=
    worded_present (worded_text word) isThere
  have interpreter : Worded (.map (changedInterpreter s.interpreter)) :=
    wordedEntries_append (truth ..) (truth ..)
  have logging : Worded (.map (changedLogging s.logging)) :=
    wordedEntries_append (wordedEntries_append (wordedEntries_append (text ..) (text ..))
      (worded_present (worded_fileDatum _) _)) (truth ..)
  exact wordedEntries_append (wordedEntries_append (text ..) (worded_present interpreter _))
    (worded_present logging _)

theorem worded_entries (s : Settings) (includeDefaults : Bool) :
    WordedEntries (s.entries includeDefaults) := by
  cases includeDefaults with
  | true => exact worded_toEntries s
  | false => exact worded_changedEntries s

theorem sectioned_entries (s : Settings) (includeDefaults : Bool) :
    Sectioned (s.entries includeDefaults) := by
  cases includeDefaults with
  | true => exact (isLayer_toEntries s).sectioned
  | false =>
      have section_of {d : Datum} (isThere : Bool) (inner : Entries)
          (found : (if isThere = true then some (.map inner) else none) = some d) :
          ∃ inner, d = .map inner := by
        cases isThere <;> cases found
        exact ⟨inner, rfl⟩
      constructor <;> intro d found
      · refine section_of (s.interpreter != {}) (changedInterpreter s.interpreter) ?_
        simpa [entries, changedEntries, Entries.named?_append, Entries.named?_present] using found
      · refine section_of (s.logging != {}) (changedLogging s.logging) ?_
        simpa [entries, changedEntries, Entries.named?_append, Entries.named?_present] using found

end Written

namespace Key

def datum (key : Key) (s : Settings) : Datum :=
  match key with
  | .profile => .text s.profile
  | .debug => .boolean s.interpreter.debug
  | .legacyArgumentErrors => .boolean s.interpreter.legacyArgumentErrors
  | .level => .text s.logging.level.text
  | .format => .text s.logging.format
  | .file => s.logging.fileDatum
  | .console => .boolean s.logging.console

theorem at?_toEntries (key : Key) (s : Settings) : key.at? s.toEntries = some (key.datum s) := by
  cases key <;> rfl

theorem under_interpreter (s : Settings) :
    s.changedEntries.under (.text "interpreter") = changedInterpreter s.interpreter := by
  by_cases usual : s.interpreter = {}
  · simp [Entries.under_text, changedEntries, Entries.named?_append, Entries.named?_present, usual]
    rfl
  · simp [Entries.under_text, changedEntries, Entries.named?_append, Entries.named?_present, usual]

theorem under_logging (s : Settings) :
    s.changedEntries.under (.text "logging") = changedLogging s.logging := by
  by_cases usual : s.logging = {}
  · simp [Entries.under_text, changedEntries, Entries.named?_append, Entries.named?_present, usual]
    rfl
  · simp [Entries.under_text, changedEntries, Entries.named?_append, Entries.named?_present, usual]

def isChanged (key : Key) (s : Settings) : Bool :=
  match key with
  | .profile => s.profile != "default"
  | .debug => s.interpreter.debug
  | .legacyArgumentErrors => s.interpreter.legacyArgumentErrors
  | .level => s.logging.level != ({} : LoggingSettings).level
  | .format => s.logging.format != ({} : LoggingSettings).format
  | .file => s.logging.file != ({} : LoggingSettings).file
  | .console => s.logging.console != ({} : LoggingSettings).console

theorem of_eq_of_isChanged {key : Key} {s : Settings} (same : key.isChanged s = false) :
    key.of s = key.of {} := by
  cases key
  case debug | legacyArgumentErrors => exact same
  case profile | format => exact bne_eq_false_iff_eq (α := String).mp same
  case level => exact bne_eq_false_iff_eq (α := Level).mp same
  case file => exact bne_eq_false_iff_eq (α := Option String).mp same
  case console => exact bne_eq_false_iff_eq (α := Bool).mp same

theorem at?_changedEntries (key : Key) (s : Settings) :
    key.at? s.changedEntries = if key.isChanged s then some (key.datum s) else none := by
  cases key <;> simp only [at?, section?, name, under_interpreter, under_logging]
  case profile =>
    simp [changedEntries, Entries.named?_append, Entries.named?_present, isChanged, datum]
  case debug | legacyArgumentErrors =>
    simp [changedInterpreter, Entries.named?_append, Entries.named?_present]
    rfl
  all_goals
    simp [changedLogging, Entries.named?_append, Entries.named?_present, isChanged, datum]

theorem level_text (l : Level) : Field.level (.text l.text) = .ok l := by
  cases l <;> decide

theorem read_datum (key : Key) {s : Settings}
    (normal : ∀ file ∈ s.logging.file, ∃ written, file = Path.normal written) :
    key.read (key.datum s) = .ok (key.of s) := by
  cases key
  case file =>
    simp only [datum, LoggingSettings.fileDatum, read, of]
    cases here : s.logging.file with
    | none => rfl
    | some file =>
        obtain ⟨written, rfl⟩ := normal file here
        exact congrArg (fun p => Except.ok (some p)) (Path.normal_normal written)
  case level => exact level_text s.logging.level
  all_goals rfl

theorem gives_entries (key : Key) {s base : Settings} {includeDefaults : Bool}
    (normal : ∀ file ∈ s.logging.file, ∃ written, file = Path.normal written)
    (suited : includeDefaults = true ∨ base = {}) :
    key.Gives [base.toEntries, s.entries includeDefaults, [], []] (key.of s) := by
  have above (es : Entries) : key.highest? [base.toEntries, es, [], []] =
      (key.at? es).or (key.at? base.toEntries) := by
    have empty : key.at? [] = none := by cases key <;> rfl
    simp only [highest?, List.reverse_cons, List.reverse_nil, List.nil_append, List.cons_append,
      List.findSome?_cons, List.findSome?_nil, empty]
    cases key.at? es <;> cases key.at? base.toEntries <;> rfl
  have told : key.highest? [base.toEntries, s.entries includeDefaults, [], []] =
      some (key.datum s) ∨
      key.highest? [base.toEntries, s.entries includeDefaults, [], []] = some (key.datum {}) ∧
        key.of s = key.of {} := by
    rw [above]
    cases includeDefaults with
    | true => exact .inl (by rw [entries, if_pos rfl, at?_toEntries]; rfl)
    | false =>
        obtain rfl : base = {} := by simpa using suited
        rw [entries, if_neg (by decide), at?_changedEntries, at?_toEntries]
        cases changed : key.isChanged s with
        | true => exact .inl rfl
        | false => exact .inr ⟨rfl, of_eq_of_isChanged changed⟩
  obtain said | ⟨said, same⟩ := told
  · exact ⟨key.datum s, said, key.read_datum normal⟩
  · have nowhere (file : String) (mem : file ∈ (none : Option String)) :
        ∃ written, file = Path.normal written := absurd mem (Option.not_mem_none file)
    exact ⟨key.datum {}, said, same ▸ key.read_datum nowhere⟩

end Key

section Back

variable {folder made : Folder} {path : String} {s : Settings} {includeDefaults : Bool}

theorem toYaml_unified (s : Settings) (includeDefaults : Bool) :
    Text.unifyBreaks (s.toYaml includeDefaults).toList = (s.toYaml includeDefaults).toList := by
  obtain ⟨text, printed, unified⟩ := Yaml.print?_worded (worded_entries s includeDefaults)
  rw [toYaml, printed]
  exact unified

theorem fileEntries_save (way : folder.makeWay path = .ok made)
    (inverse :
      Yaml.load (s.toYaml includeDefaults).toList = .ok (.map (s.entries includeDefaults))) :
    fileEntries (made.put (Folder.target path) (s.toYaml includeDefaults)) (some path) =
      .ok (s.entries includeDefaults) := by
  have found : (made.put (Folder.target path) (s.toYaml includeDefaults)).read?
      (Path.normal path) = some (s.toYaml includeDefaults) := by
    rw [Folder.read?_normal, Folder.read?_put way]
  rw [fileEntries]
  delta Folder.loadYaml
  simp only [found, toYaml_unified, inverse]

/-- Saved settings load back: where the reader of the notation takes in what its writer gave for
them, the file laid over any profile gives the very same settings, and so does the shorter file over
the usual profile. -/
theorem saved_settings_load_back {profile : String} {base : Settings} (env : Environment)
    (registered : named? profile = some base)
    (suited : includeDefaults = true ∨ profile = "default")
    (normal : ∀ file ∈ s.logging.file, ∃ written, file = Path.normal written)
    (writable : folder.makeWay path = .ok made)
    (inverse :
      Yaml.load (s.toYaml includeDefaults).toList = .ok (.map (s.entries includeDefaults))) :
    ∃ saved, s.save folder path includeDefaults = .ok saved ∧
      load saved env profile { file := some path, useEnvironment := false } = .ok s := by
  have readable := fileEntries_save writable inverse
  have usual : includeDefaults = true ∨ base = {} := by
    refine suited.imp_right fun default => ?_
    have same : named? "default" = some {} := by decide
    exact Option.some.inj (registered.symm.trans (default ▸ same))
  have sound : ∀ es ∈ [s.entries includeDefaults, [], []], IsLayer es := by
    simp only [List.forall_mem_cons]
    exact ⟨⟨keyed_fileEntries readable, sectioned_entries ..⟩, ⟨trivial, .nil⟩, ⟨trivial, .nil⟩,
      nofun⟩
  let saved := made.put (Folder.target path) (s.toYaml includeDefaults)
  let alone : Sources := { file := some path, useEnvironment := false }
  have found : fileEntries saved alone.file = .ok (s.entries includeDefaults) := readable
  have silent : environmentEntries env alone.homes alone.useEnvironment = .ok [] := rfl
  have nothing : overrideEntries alone.overrides = [] := rfl
  have loaded : load saved env profile alone = .ok s := by
    rw [load_eq_ok registered found silent, nothing, ofEntries_layered sound]
    exact fun key => key.gives_entries normal usual
  exact ⟨saved, by rw [save, writable]; rfl, loaded⟩

def awkward : Settings where
  profile := "null"
  logging := {
    format := " it's \"%(message)s\": # \x07\r\n \u00e9 and more words than there is room for" ++
      " on a line "
    file := some "//logs/../~: 1.txt" }

def awkwardText : String :=
  "profile: 'null'\nlogging:\n" ++
  "  format: \" it's \\\"%(message)s\\\": # \\a\\r\\n \\xE9 and more words than there " ++
  "is room\\\n" ++
  "    \\ for on a line \"\n  file: '//logs/../~: 1.txt'\n"

def awkwardTokens : List Yaml.Token :=
  let entry (name text : String) : List Yaml.Token :=
    [.key, .scalar name true, .value, .scalar text false]
  [.mappingStart] ++ entry "profile" "null" ++
    [.key, .scalar "logging" true, .value, .mappingStart] ++
    entry "format" awkward.logging.format ++ entry "file" "//logs/../~: 1.txt" ++
    [.blockEnd, .blockEnd]

theorem awkward_loads_back :
    ∃ saved, awkward.save [] "a/.././b/saved.yaml" false = .ok saved ∧
      load saved [] "default" { file := some "a/.././b/saved.yaml", useEnvironment := false } =
        .ok awkward := by
  have inverse : Yaml.load (awkward.toYaml false).toList = .ok (.map (awkward.entries false)) := by
    have written : awkward.toYaml false = awkwardText := by decide +kernel
    rw [written]
    have read : Yaml.Stream.ofText awkwardText.toList = ⟨awkwardTokens, none⟩ := by decide +kernel
    exact Yaml.load_of_tokens read (by decide +kernel)
  have normal : ∀ file ∈ awkward.logging.file, ∃ written, file = Path.normal written := by
    intro file mem
    obtain rfl := Option.some.inj mem
    exact ⟨"//logs///./../~: 1.txt/", by decide +kernel⟩
  have writable : Folder.makeWay [] "a/.././b/saved.yaml" =
      .ok [(["a", ""], ""), (["b", ""], "")] := by decide +kernel
  have registered : named? "default" = some {} := by decide
  exact saved_settings_load_back [] registered (.inr rfl) normal writable inverse

end Back

end Settings

end Formulary
