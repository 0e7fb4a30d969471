import Formulary.Proofs.Command.Actions
import Formulary.Proofs.Log.Delivery
import Formulary.Proofs.Screen.Control
import Formulary.Proofs.Settings.Saved

set_option autoImplicit false

namespace Formulary.Command

open Settings (named? fileEntries environmentEntries losesHome)

section Loading

variable {folder : Folder} {env : Environment} {homes : Path.Homes} {file : Option String}
  {useEnvironment : Bool}

/-- The flaws of a text that are no fault of its notation, nor a number or a date that does not
exist. -/
def isUnlooked : Yaml.Flaw → Bool
  | .malformed | .outOfKind => false
  | .tooLarge | .noDigits | .noTruthWord | .noMoment | .surrogate => true

/-- A file of settings that breaks a command off, or an environment that does. -/
inductive BreaksLoading (folder : Folder) (env : Environment) (homes : Path.Homes)
    (useEnvironment : Bool) : Option String → Prop where
  | flawed {path text : String} {flaw : Yaml.Flaw}
      (read : folder.read? (Path.normal path) = some text)
      (flawed : Yaml.load (Text.unifyBreaks text.toList) = .error flaw)
      (unlooked : isUnlooked flaw = true) :
      BreaksLoading folder env homes useEnvironment (some path)
  | homeless {file : Option String} {es : Entries} (read : fileEntries folder file = .ok es)
      (lost : losesHome env homes useEnvironment = true) :
      BreaksLoading folder env homes useEnvironment file

theorem isTold_flawedFile (flaw : Yaml.Flaw) : isTold (.flawedFile flaw) = !isUnlooked flaw := by
  cases flaw <;> rfl

theorem fileEntries_untold :
    (∃ f, fileEntries folder file = .error f ∧ isTold f = false) ↔
      ∃ path text flaw, file = some path ∧ folder.read? (Path.normal path) = some text ∧
        Yaml.load (Text.unifyBreaks text.toList) = .error flaw ∧ isUnlooked flaw = true := by
  cases file with
  | none => exact ⟨nofun, nofun⟩
  | some path =>
      rw [fileEntries]
      delta Folder.loadYaml
      cases read : folder.read? (Path.normal path) with
      | none => simp [read, isTold]
      | some text =>
          cases loaded : Yaml.load (Text.unifyBreaks text.toList) with
          | error flaw => simp [read, loaded, isTold_flawedFile]
          | ok d =>
              simp only [read, loaded, Option.some.injEq]
              constructor
              · rintro ⟨f, failed, untold⟩
                split at failed
                · next flawed => cases flawed
                · cases failed
                · cases failed
                · cases failed
                  cases untold
              · rintro ⟨_, _, flaw, rfl, same, flawed, -⟩
                rw [read] at same
                cases same
                rw [loaded] at flawed
                cases flawed

theorem environmentEntries_error {f : LoadFault} :
    environmentEntries env homes useEnvironment = .error f ↔
      f = .unknownHome ∧ losesHome env homes useEnvironment = true := by
  cases lost : losesHome env homes useEnvironment with
  | true => simp [Settings.environmentEntries_lost lost, eq_comm]
  | false =>
      obtain ⟨es, spoken⟩ := Settings.environmentEntries_kept lost
      simp [spoken]

theorem mapError_invalid {read : Settings.Field.Checked Settings} {f : LoadFault}
    (failed : read.mapError .invalid = .error f) : ∃ issues, f = .invalid issues := by
  cases read with
  | ok s => cases failed
  | error issues =>
      cases failed
      exact ⟨issues, rfl⟩

theorem load_untold {profile : String} {base : Settings} (registered : named? profile = some base) :
    (∃ f, Settings.load folder env profile
        { file := file, useEnvironment := useEnvironment, homes := homes } = .error f ∧
          isTold f = false) ↔
      BreaksLoading folder env homes useEnvironment file := by
  have opened : Settings.profileEntries profile = .ok base.toEntries := by
    rw [Settings.profileEntries, registered]
  constructor
  · rintro ⟨f, failed, untold⟩
    rw [Settings.load, opened] at failed
    cases read : fileEntries folder file with
    | error g =>
        rw [read] at failed
        cases failed
        obtain ⟨path, text, flaw, rfl, found, flawed, unlooked⟩ :=
          fileEntries_untold.mp ⟨f, read, untold⟩
        exact .flawed found flawed unlooked
    | ok es =>
        cases spoken : environmentEntries env homes useEnvironment with
        | error g => exact .homeless read (environmentEntries_error.mp spoken).2
        | ok outside =>
            rw [read, spoken] at failed
            obtain ⟨issues, rfl⟩ := mapError_invalid failed
            cases untold
  · rintro (⟨found, flawed, unlooked⟩ | ⟨read, lost⟩)
    · obtain ⟨f, failed, untold⟩ := fileEntries_untold.mpr ⟨_, _, _, rfl, found, flawed, unlooked⟩
      refine ⟨f, ?_, untold⟩
      rw [Settings.load, opened, failed]
      rfl
    · exact ⟨.unknownHome, Settings.load_lost registered read lost, rfl⟩

theorem load_told {profile : String} {base : Settings} (registered : named? profile = some base)
    (sound : ¬BreaksLoading folder env homes useEnvironment file) {f : LoadFault}
    (failed : Settings.load folder env profile
      { file := file, useEnvironment := useEnvironment, homes := homes } = .error f) :
    isTold f = true := by
  cases untold : isTold f with
  | true => rfl
  | false => exact absurd ((load_untold registered).mp ⟨f, failed, untold⟩) sound

end Loading

section Binding

inductive BreaksBinding (folder : Folder) : Option String → Prop where
  | flawed {path : String} {flaw : Yaml.Flaw}
      (flawed : Yaml.load (Text.unifyBreaks ((folder.read? path).getD "").toList) = .error flaw) :
      BreaksBinding folder (some path)
  | tooLarge {path : String} {before after : Entries} {key : Scalar} {n : Int}
      (read : Yaml.load (Text.unifyBreaks ((folder.read? path).getD "").toList) =
        .ok (.map (before ++ (key, .integer n) :: after)))
      (convertible : ∀ e ∈ before, ∃ v, Bindings.convert e.2 = .ok v)
      (large : Decimal.floatOfInt? n = none) : BreaksBinding folder (some path)

theorem convert_untold {d : Datum} :
    (∃ f, Bindings.convert d = .error f ∧ f.message? = none) ↔
      ∃ n, d = .integer n ∧ Decimal.floatOfInt? n = none := by
  cases d with
  | scalar s =>
      cases s with
      | integer n =>
          cases large : Decimal.floatOfInt? n <;>
            simp [Bindings.convert, Datum.toValue, large, BindingFault.message?]
      | _ => simp [Bindings.convert, Datum.toValue, BindingFault.message?]
  | _ => simp [Bindings.convert, Datum.toValue, BindingFault.message?]

theorem ofEntries_untold {es : Entries} :
    (∃ f, Bindings.ofEntries es = .error f ∧ f.message? = none) ↔
      ∃ before key n after, es = before ++ (key, .integer n) :: after ∧
        (∀ e ∈ before, ∃ v, Bindings.convert e.2 = .ok v) ∧ Decimal.floatOfInt? n = none := by
  simp only [Bindings.ofEntries, bind_pure_comp, map_eq_error, mapM_eq_error, map_eq_ok]
  constructor
  · rintro ⟨f, ⟨before, ⟨key, d⟩, after, rfl, fine, failed⟩, untold⟩
    obtain ⟨n, rfl, large⟩ := convert_untold.mp ⟨f, failed, untold⟩
    refine ⟨before, key, n, after, rfl, fun e mem => ?_, large⟩
    obtain ⟨-, v, converted, -⟩ := fine e mem
    exact ⟨v, converted⟩
  · rintro ⟨before, key, n, after, rfl, fine, large⟩
    obtain ⟨f, failed, untold⟩ := convert_untold.mpr ⟨n, rfl, large⟩
    refine ⟨f, ⟨before, (key, .integer n), after, rfl, fun e mem => ?_, failed⟩, untold⟩
    obtain ⟨v, converted⟩ := fine e mem
    exact ⟨_, v, converted, rfl⟩

theorem fileBindings_untold {folder : Folder} {file : Option String} :
    (∃ f, fileBindings folder file = .error f ∧ f.message? = none) ↔ BreaksBinding folder file := by
  cases file with
  | none => exact ⟨nofun, nofun⟩
  | some path =>
      simp only [fileBindings, Bindings.ofYaml]
      cases loaded : Yaml.load (Text.unifyBreaks ((folder.read? path).getD "").toList) with
      | error flaw => exact ⟨fun _ => .flawed loaded, fun _ => ⟨_, rfl, rfl⟩⟩
      | ok d =>
          constructor
          · rintro ⟨f, failed, untold⟩
            split at failed
            · next flawed => cases flawed
            · cases failed
            · next es read =>
                cases read
                obtain ⟨before, key, n, after, rfl, fine, large⟩ :=
                  ofEntries_untold.mp ⟨f, failed, untold⟩
                exact .tooLarge loaded fine large
            · cases failed
              cases untold
          · intro broken
            cases broken with
            | flawed flawed =>
                rw [loaded] at flawed
                cases flawed
            | tooLarge read fine large =>
                rw [loaded] at read
                cases read
                exact ofEntries_untold.mpr ⟨_, _, _, _, rfl, fine, large⟩

end Binding

section Logging

inductive BreaksLogging (folder : Folder) (s : LoggingSettings) : Prop where
  | format (refused : Log.Format.isAccepted s.format = false) : BreaksLogging folder s
  | file {path : String} {obstacle : Folder.Obstacle} (named : s.file = some path)
      (blocked : folder.makeWay path = .error obstacle) : BreaksLogging folder s

theorem configure_iff {s : LoggingSettings} (g : General) (world : Log.World) :
    (Log.Logger.configure (quieted g s) world).2.2 = .ok () ↔ ¬BreaksLogging world.files s := by
  rw [configure_quieted_iff]
  constructor
  · rintro ⟨accepted, opens⟩ (refused | ⟨named, blocked⟩)
    · simp [accepted] at refused
    · have open_ := opens _ named
      simp [blocked, Except.isOk, Except.toBool] at open_
  · intro sound
    refine ⟨?_, fun path named => ?_⟩
    · cases accepted : Log.Format.isAccepted s.format with
      | true => rfl
      | false => exact absurd (.format accepted) sound
    · cases way : world.files.makeWay path with
      | ok made => rfl
      | error obstacle => exact absurd (.file named way) sound

end Logging

section Broken

variable {w : Surroundings} {g : General} {line : Line}

/-- What an action reads breaks it off. -/
inductive Breaks (w : Surroundings) (g : General) (line : Line) : Action → Prop where
  | loading {a : Action} (loads : a = .evaluate ∨ a = .show)
      (broken : BreaksLoading w.folder w.environment w.homes true g.configFile) : Breaks w g line a
  | checking
      (broken : BreaksLoading w.folder w.environment {} false
        (pathOf line .configFile <|> g.configFile)) : Breaks w g line .validate
  | logging {s : Settings} (given : loaded w g = .ok s)
      (broken : BreaksLogging w.folder s.logging) : Breaks w g line .evaluate
  | binding {s : Settings} (given : loaded w g = .ok s)
      (broken : BreaksBinding w.folder (pathOf line .scopeFile)) : Breaks w g line .evaluate

theorem orBindings_error {α : Type} (f : BindingFault) (d : Deeds) :
    ∃ e, (orBindings (.error f : Except BindingFault α)).on d = (.error e, d) ∧
      (f.message? = none → e = .crash (.bindings f)) ∧
      (f.message? ≠ none → e.IsReported d) := by
  unfold orBindings
  rw [Run.on_orElse_error]
  cases told : f.message? with
  | none => exact ⟨_, rfl, fun _ => rfl, fun some_ => absurd rfl some_⟩
  | some m => exact ⟨_, rfl, nofun, fun _ => trivial⟩

theorem message?_of_ofAssignments {texts : List String} {f : BindingFault}
    (failed : Bindings.ofAssignments texts = .error f) : f.message? ≠ none := by
  simp only [Bindings.ofAssignments, bind_pure_comp, map_eq_error, mapM_eq_error] at failed
  obtain ⟨-, text, -, -, -, failed⟩ := failed
  unfold Bindings.ofAssignment at failed
  split at failed
  · simp only at failed
    split at failed <;> cases failed
    nofun
  · cases failed
    nofun

theorem evaluate_loadFault {r : Request} {f : LoadFault} (failed : loaded w g = .error f)
    (d : Deeds) :
    ∃ e d', (evaluate w g r).on d = (.error e, d') ∧
      (isTold f = true → e.IsReported d') ∧ (isTold f = false → e = .crash (.settings f)) := by
  obtain ⟨e, d', left, ending⟩ := loadSettings_error failed d
  exact ⟨e, d', Run.on_bind_error left, ending⟩

theorem evaluate_bindingFault {r : Request} {s : Settings} {f : BindingFault} {d : Deeds}
    (given : loaded w g = .ok s)
    (opened : (Log.Logger.configure (quieted g s.logging) d.world).2.2 = .ok ())
    (failed : fileBindings w.folder r.scopeFile = .error f ∨
      ∃ bs, fileBindings w.folder r.scopeFile = .ok bs ∧
        Bindings.ofAssignments r.assignments = .error f) :
    ∃ e d', (evaluate w g r).on d = (.error e, d') ∧
      (f.message? = none → e = .crash (.bindings f)) ∧ (f.message? ≠ none → e.IsReported d') := by
  obtain ⟨front, begun, -⟩ := loadSettings_ok given d
  obtain ⟨logger, world, ready⟩ := setUp_ok (d := { d with output := d.output ++ front }) opened
  unfold quieted at ready
  obtain ⟨e, left, ending⟩ := orBindings_error (α := Bindings) f
    { output := d.output ++ front, world := world }
  refine ⟨e, { output := d.output ++ front, world := world }, ?_, ending⟩
  obtain file | ⟨bs, file, assigned⟩ := failed
  · simp only [evaluate, Run.on_bind, begun, ready, file, left]
  · simp only [evaluate, Run.on_bind, begun, ready, file, assigned, orBindings_ok, left]

theorem reports_of_left {α : Type} {r : Except Ending α × Deeds} {e : Ending} {d : Deeds}
    (left : r = (.error e, d)) (reported : e.IsReported d) : Run.Reports r := by
  rw [left]
  exact reported

theorem reports_evaluate {base : Settings} (registered : named? g.profile = some base)
    (sound : ¬Breaks w g line .evaluate) :
    Run.Reports ((evaluate w g (.ofLine line)).on (start w)) := by
  cases given : loaded w g with
  | error f =>
      obtain ⟨e, d', left, told, -⟩ := evaluate_loadFault (r := .ofLine line) given (start w)
      have loading := load_told registered (fun broken => sound (.loading (.inl rfl) broken)) given
      exact reports_of_left left (told loading)
  | ok s =>
      have opened := (configure_iff g (start w).world).mpr
        fun broken => sound (.logging given broken)
      cases file : fileBindings w.folder (pathOf line .scopeFile) with
      | error f =>
          obtain ⟨e, d', left, -, reported⟩ :=
            evaluate_bindingFault (r := .ofLine line) given opened (.inl file)
          refine reports_of_left left (reported fun untold => ?_)
          exact sound (.binding given (fileBindings_untold.mp ⟨f, file, untold⟩))
      | ok bs =>
          cases well : Bindings.ofAssignments (line.values .variable) with
          | error f =>
              obtain ⟨e, d', left, -, reported⟩ :=
                evaluate_bindingFault (r := .ofLine line) given opened (.inr ⟨bs, file, well⟩)
              exact reports_of_left left (reported (message?_of_ofAssignments well))
          | ok assigned =>
              obtain ⟨front, back, world, done, -⟩ :=
                evaluate_on (r := .ofLine line) given opened file well
              rw [done]
              split
              · refine ⟨rfl, ?_⟩
                simp [Screen.Control.strip_newline]
              · trivial

theorem json_toEntries (s : Settings) : ∃ text, Json.print? (.map s.toEntries) = some text := by
  obtain ⟨word, file⟩ : ∃ word, Json.printAt 2 s.logging.fileDatum = some word := by
    unfold LoggingSettings.fileDatum
    cases s.logging.file <;> exact ⟨_, rfl⟩
  simp [Json.print?, Json.printAt, Json.printEntries, Json.keyText?, Json.scalarText?,
    Settings.toEntries, InterpreterSettings.toEntries, LoggingSettings.toEntries, file]

theorem leaves_toEntries (s : Settings) :
    ∀ leaf ∈ Entries.flatten s.toEntries,
      ∃ name, Screen.Markup.shown? leaf.1.toList = some name := by
  have names : (Entries.flatten s.toEntries).map Prod.fst = ["profile", "interpreter.debug",
      "interpreter.legacy_argument_errors", "logging.level", "logging.format", "logging.file",
      "logging.console"] := by
    obtain ⟨profile, interpreter, level, format, file, console⟩ := s
    cases file <;> rfl
  have shown : ∀ name ∈ (Entries.flatten s.toEntries).map Prod.fst,
      (Screen.Markup.shown? name.toList).isSome = true := by
    rw [names]
    decide +kernel
  exact fun leaf mem => Option.isSome_iff_exists.mp (shown _ (List.mem_map_of_mem mem))

theorem table_toEntries (s : Settings) : ∃ text, Entries.table none s.toEntries = .ok text := by
  unfold Entries.table
  cases rows : (Entries.flatten s.toEntries).mapM fun leaf => do
      let name ← Entries.orTag (Screen.Markup.shown? leaf.1.toList)
      return [name, Screen.Markup.literal leaf.2.display.toList] with
  | error fault =>
      obtain ⟨before, leaf, after, split, -, failed⟩ := mapM_eq_error.mp rows
      obtain ⟨name, shown⟩ := leaves_toEntries s leaf (by simp [split])
      simp [shown, Entries.orTag] at failed
  | ok rows => exact ⟨_, rfl⟩

theorem render_toEntries (s : Settings) (format : OutputFormat) :
    ∃ text, (Datum.map s.toEntries).render format = .ok text := by
  cases format with
  | yaml =>
      obtain ⟨text, printed, -⟩ := Yaml.print?_worded (Settings.worded_toEntries s)
      exact ⟨text, by simp [Datum.render, printed, Datum.orUnwritable]⟩
  | json =>
      obtain ⟨text, printed⟩ := json_toEntries s
      exact ⟨text, by simp [Datum.render, printed, Datum.orUnwritable]⟩
  | table => exact table_toEntries s

theorem reports_show {base : Settings} (registered : named? g.profile = some base)
    (sound : ¬Breaks w g line .show) (d : Deeds) :
    Run.Reports ((showSettings w g (formatOf line)).on d) := by
  cases given : loaded w g with
  | error f =>
      obtain ⟨e, d', left, told, -⟩ := loadSettings_error given d
      have loading := load_told registered (fun broken => sound (.loading (.inr rfl) broken)) given
      exact reports_of_left (Run.on_bind_error left) (told loading)
  | ok s =>
      obtain ⟨front, begun, -⟩ := loadSettings_ok given d
      obtain ⟨text, shown⟩ := render_toEntries s (formatOf line)
      simp only [showSettings, Run.on_bind, begun, shown, Run.on_orElse_ok, Run.on_echo]
      trivial

def checked (w : Surroundings) (g : General) (path : String) : Except LoadFault Settings :=
  Settings.load w.folder w.environment g.profile { file := some path, useEnvironment := false }

theorem validate_none {own : Option String} (unnamed : (own <|> g.configFile) = none) (d : Deeds) :
    Run.Reports ((validate w g own).on d) := by
  rw [validate, unnamed]
  exact Run.reports_fail ..

theorem validate_ok {own : Option String} {path : String} {s : Settings}
    (file : (own <|> g.configFile) = some path) (valid : checked w g path = .ok s) (d : Deeds) :
    Run.Reports ((validate w g own).on d) := by
  rw [checked] at valid
  simp only [validate, file, valid]
  trivial

theorem validate_invalid {own : Option String} {path : String} {issues : List Issue}
    (file : (own <|> g.configFile) = some path)
    (failed : checked w g path = .error (.invalid issues))
    (d : Deeds) : Run.Reports ((validate w g own).on d) := by
  rw [checked] at failed
  have listed : Run.Prints (issues.forM fun i => Run.echo ("  " ++ i.text ++ "\n")) :=
    Run.prints_forM (fun i _ => ⟨_, rfl⟩) issues
  obtain ⟨text, told⟩ := listed
    { d with
      output := d.output ++ (Screen.Notice.error ("Configuration is invalid: " ++ path)).text }
  simp only [validate, file, failed, Run.on_bind, Run.on_tell, told, Run.on_leave]
  refine ⟨rfl, ?_⟩
  simp [Screen.Notice.text]

theorem validate_fault {own : Option String} {path : String} {f : LoadFault}
    (file : (own <|> g.configFile) = some path) (failed : checked w g path = .error f)
    (other : ∀ issues, f ≠ .invalid issues) (d : Deeds) :
    ∃ e d', (validate w g own).on d = (.error e, d') ∧
      (isTold f = true → e.IsReported d') ∧ (isTold f = false → e = .crash (.settings f)) := by
  obtain ⟨e, d', left, ending⟩ := leaveOn_on Unit "Cannot read configuration: " f d
  rw [checked] at failed
  refine ⟨e, d', ?_, ending⟩
  simp only [validate, file, failed]
  cases f with
  | invalid issues => exact absurd rfl (other issues)
  | _ => exact left

theorem reports_validate {base : Settings} (registered : named? g.profile = some base)
    (sound : ¬Breaks w g line .validate) (d : Deeds) :
    Run.Reports ((validate w g (pathOf line .configFile)).on d) := by
  cases file : pathOf line .configFile <|> g.configFile with
  | none => exact validate_none file d
  | some path =>
      cases result : checked w g path with
      | ok s => exact validate_ok file result d
      | error f =>
          by_cases other : ∃ issues, f = .invalid issues
          · obtain ⟨issues, rfl⟩ := other
            exact validate_invalid file result d
          · obtain ⟨e, d', left, told, -⟩ :=
              validate_fault file result (fun issues same => other ⟨issues, same⟩) d
            have checking := load_told registered
              (fun broken => sound (.checking (file ▸ broken))) result
            exact reports_of_left left (told checking)

theorem registered_ofLine (general : Line) :
    ∃ base, named? (General.ofLine general).profile = some base := by
  have each : ∀ name ∈ Settings.profileNames, (named? name).isSome = true := by decide
  refine Option.isSome_iff_exists.mp (each _ ?_)
  unfold General.ofLine
  cases found : (general.value? .profile).bind (choice? Settings.profileNames) with
  | none =>
      show "default" ∈ Settings.profileNames
      decide
  | some name =>
      obtain ⟨text, -, listed⟩ := Option.bind_eq_some_iff.mp found
      simpa [found] using List.mem_of_find?_eq_some listed

theorem Leads.registered {args : List String} {a : Action} (leads : Leads w args g a line) :
    ∃ base, named? g.profile = some base := by
  cases leads with
  | direct => exact registered_ofLine _
  | grouped => exact registered_ofLine _

theorem reports_act {base : Settings} (registered : named? g.profile = some base) {a : Action}
    (sound : ¬Breaks w g line a) : Run.Reports ((act w g a line).on (start w)) := by
  cases a with
  | evaluate => exact reports_evaluate registered sound
  | «show» => exact reports_show registered sound _
  | validate => exact reports_validate registered sound _
  | functions | profiles => trivial

end Broken

section Outcomes

def Outcome.IsReported (o : Outcome) : Prop := o.ending.IsReported o.deeds

variable {w : Surroundings}

theorem isReported_iff (args : List String) :
    (run w args).IsReported ↔ Run.Reports ((follow w args).on (start w)) := by
  rw [run_eq]
  cases (follow w args).on (start w) with
  | mk result d => cases result <;> rfl

/-- Whatever the command line and the files are, a command comes to its end or says why it does not,
if the action that the command line leads to reads nothing that breaks it off. -/
theorem reported_of_unbroken {args : List String}
    (sound : ∀ g a line, Leads w args g a line → ¬Breaks w g line a) :
    (run w args).IsReported := by
  rw [isReported_iff]
  obtain ⟨g, a, line, leads⟩ | ⟨e, d', left, reported⟩ := follow_cases w args (start w)
  · obtain ⟨base, registered⟩ := leads.registered
    rw [follow_on leads]
    exact reports_act registered (sound g a line leads)
  · exact reports_of_left left reported

end Outcomes

section Unlooked

variable {w : Surroundings} {args : List String} {g : General} {a : Action} {line : Line}

def settingsFile (g : General) (line : Line) : Action → Option String
  | .evaluate | .show => g.configFile
  | .validate => pathOf line .configFile <|> g.configFile
  | .functions | .profiles => none

inductive Reads (w : Surroundings) (g : General) (line : Line) : Action → String → Prop where
  | settings {a : Action} {path text : String} (named : settingsFile g line a = some path)
      (read : w.folder.read? (Path.normal path) = some text) : Reads w g line a text
  | bindings {path : String} (named : pathOf line .scopeFile = some path) :
      Reads w g line .evaluate ((w.folder.read? path).getD "")

def flawOf? (text : String) : Option Yaml.Flaw :=
  match Yaml.load (Text.unifyBreaks text.toList) with
  | .ok _ => none
  | .error flaw => some flaw

/-- The texts that an action reads hold no codes of surrogates. -/
def Legible (w : Surroundings) (g : General) (line : Line) (a : Action) : Prop :=
  ∀ text, Reads w g line a text → flawOf? text ≠ some .surrogate

end Unlooked

end Formulary.Command
