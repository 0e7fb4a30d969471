import Formulary.Proofs.Command.Actions
import Formulary.Proofs.Command.Bindings
import Formulary.Proofs.Command.Spelling
import Formulary.Proofs.Data.Paths
import Formulary.Proofs.Log.Delivery
import Formulary.Proofs.Screen.Control
import Formulary.Proofs.Yaml.Tokens

set_option autoImplicit false

namespace Formulary.Command

section Lines

variable {w : Surroundings} {given : List Given} {args rest : List String} {e : String}

theorem first?_eq_none {keys : List Key} (absent : ∀ g ∈ given, g.key ∉ keys) (rest : List String) :
    Line.first? ⟨given, rest⟩ keys = none := by
  simpa [Line.first?] using absent

theorem Spelled.key_mem {switches : List Switch} (spelled : Spelled switches given args) :
    ∀ g ∈ given, g.key ∈ switches.map Switch.key := by
  induction spelled with
  | nil => simp
  | flag mem _ _ _ ih | value mem _ _ _ ih | equated mem _ _ _ _ ih | joined mem _ _ _ _ ih
  | shared mem _ _ _ _ ih =>
    exact List.forall_mem_cons.mpr ⟨List.mem_map_of_mem mem, ih⟩

theorem Spelled.key_ne {switches : List Switch} (spelled : Spelled switches given args) {key : Key}
    (unknown : key ∉ switches.map Switch.key) : ∀ g ∈ given, g.key ≠ key := by
  rintro g mem rfl
  exact unknown (spelled.key_mem g mem)

/-- What is given last to a switch can be taken: a file that is there, a profile of the list. -/
structure Sound (folder : Folder) (given : List Given) : Prop where
  file : ∀ key ∈ [Key.configFile, .scopeFile], ∀ path ∈ Line.value? ⟨given, []⟩ key,
    folder.kind path = .file
  listed : ∀ text ∈ Line.value? ⟨given, []⟩ .profile,
    (choice? Settings.profileNames text).isSome = true

theorem checkValue_ok {folder : Folder} (sound : Sound folder given) (c : Command)
    (rest : List String) {key : Key} (other : key ≠ .format) :
    checkValue folder c ⟨given, rest⟩ key = .ok () := by
  have last (key : Key) : Line.value? ⟨given, rest⟩ key = Line.value? ⟨given, []⟩ key := rfl
  unfold checkValue
  split
  · next path there => rw [checkFile, sound.file .configFile (by simp) path (last _ ▸ there)]
  · next path there => rw [checkFile, sound.file .scopeFile (by simp) path (last _ ▸ there)]
  · next text there =>
      obtain ⟨choice, found⟩ := Option.isSome_iff_exists.mp (sound.listed text (last _ ▸ there))
      rw [checkChoice, found]
  · contradiction
  · rfl

theorem entered_root (spelled : Spelled Command.root.switches given args)
    (calm : ∀ g ∈ given, g.key ∉ [Key.help, .version]) (sound : Sound w.folder given)
    {name : String} (called : Line.isSwitch name = false) (rest : List String) :
    Entered w .root (args ++ name :: rest) ⟨given, name :: rest⟩ where
  asked := by cases args <;> rfl
  read := by
    have notEnd : name ≠ "--" := by
      rintro rfl
      cases called
    have stops : Line.scan Command.root.switches false (name :: rest) = .ok ⟨[], name :: rest⟩ := by
      rw [Line.scan, if_neg notEnd, if_neg (by simp [called]), if_neg Bool.false_ne_true]
    have whole := Line.scan_spelled false (name :: rest) (Line.legible_switches .root) spelled
    rw [stops] at whole
    simpa [Command.isGroup, Except.map, Line.addGiven] using whole
  calm := first?_eq_none calm _
  checked := forM_ok fun g mem =>
    checkValue_ok sound .root _ (spelled.key_ne (by decide) g mem)
  complete := rfl

theorem entered_evaluate (spelled : Spelled (Command.action .evaluate).switches given args)
    (calm : ∀ g ∈ given, g.key ≠ .help) (sound : Sound w.folder given) (e : String) :
    Entered w (.action .evaluate) (args ++ ["--", e]) ⟨given, [e]⟩ where
  asked := rfl
  read := by
    have ends : Line.scan (Command.action .evaluate).switches true ["--", e] = .ok ⟨[], [e]⟩ := by
      rw [Line.scan, if_pos rfl]
    have whole := Line.scan_spelled true ["--", e] (Line.legible_switches (.action .evaluate)) spelled
    rw [ends] at whole
    simpa [Command.isGroup, Except.map, Line.addGiven] using whole
  calm := by
    have noVersion := spelled.key_ne (show Key.version ∉ _ by decide)
    exact first?_eq_none (fun g mem => by simp [calm g mem, noVersion g mem]) _
  checked := forM_ok fun g mem =>
    checkValue_ok sound _ _ (spelled.key_ne (by decide) g mem)
  complete := rfl

end Lines

section Given

structure Assignment where
  name : String
  value : String
  named : Text.trimmed name ≠ ""
  plain : '=' ∉ name.toList

namespace Assignment

def text (a : Assignment) : String := a.name ++ "=" ++ a.value

def binding (a : Assignment) : String × Value := (Text.trimmed a.name, Value.ofText a.value)

theorem ofAssignment_text (a : Assignment) : Bindings.ofAssignment a.text = .ok a.binding := by
  have front : a.text.toList.takeWhile (· != '=') = a.name.toList := by
    rw [text, Line.toList_equated, Line.takeWhile_plain a.plain]
    exact List.append_nil _
  have back : a.text.toList.dropWhile (· != '=') = '=' :: a.value.toList := by
    rw [text, Line.toList_equated, Line.dropWhile_plain a.plain]
    rfl
  simp only [Bindings.ofAssignment, front, back, String.ofList_toList, if_neg a.named, binding]

theorem ofAssignments_text (assignments : List Assignment) :
    Bindings.ofAssignments (assignments.map text) = .ok (.ofList (assignments.map binding)) := by
  rw [Bindings.ofAssignments, mapM_map_ok fun a _ => ofAssignment_text a]
  rfl

end Assignment

structure Convertible where
  key : Scalar
  datum : Datum
  value : Value
  converts : datum.toValue = .ok value

namespace Convertible

def entry (c : Convertible) : Scalar × Datum := (c.key, c.datum)

def binding (c : Convertible) : String × Value := (c.key.display, c.value)

theorem ofEntries_entry (cs : List Convertible) :
    Bindings.ofEntries (cs.map entry) = .ok (.ofList (cs.map binding)) := by
  have each (c : Convertible) :
      (do return (c.entry.1.display, ← Bindings.convert c.entry.2)) =
        (.ok c.binding : Except BindingFault (String × Value)) := by
    simp only [entry, Bindings.convert, c.converts, binding]
    rfl
  rw [Bindings.ofEntries, mapM_map_ok fun c _ => each c]
  rfl

end Convertible

/-- The file that is given, if one is, maps names to values. -/
def FileHolds (folder : Folder) (path : Option String) (cs : List Convertible) : Prop :=
  match path with
  | none => cs = []
  | some path => ∃ text, folder.read? path = some text ∧
      Yaml.load (Text.unifyBreaks text.toList) = .ok (.map (cs.map Convertible.entry))

theorem fileBindings_of_holds {folder : Folder} {path : Option String} {cs : List Convertible}
    (holds : FileHolds folder path cs) :
    fileBindings folder (path.map Path.normal) = .ok (.ofList (cs.map Convertible.binding)) := by
  cases path with
  | none =>
      obtain rfl : cs = [] := holds
      rfl
  | some path =>
      obtain ⟨text, found, loads⟩ := holds
      simp only [Option.map_some, fileBindings, Folder.read?_normal, found, Option.getD_some,
        Bindings.ofYaml, loads, Convertible.ofEntries_entry]

end Given

section Agreement

variable {w : Surroundings} {general own : List Given} {front options : List String} {s : Settings}

theorem Outcome.ofResult_ite (c : Prop) [Decidable c] (d : Deeds) :
    Outcome.ofResult (if c then .error (.exit 1) else .ok (), d) =
      ⟨d, .exit (if c then 1 else 0)⟩ := by
  split <;> rfl

theorem run_evaluation {args rest : List String} {e : String} {bs assigned : Bindings}
    (root : Entered w .root args ⟨general, "eval" :: rest⟩)
    (entered : Entered w (.action .evaluate) rest ⟨own, [e]⟩)
    (silent : Line.has ⟨general, []⟩ .verbose = false)
    (configured : loaded w (.ofLine ⟨general, []⟩) = .ok s)
    (opened : (Log.Logger.configure (quieted (.ofLine ⟨general, []⟩) s.logging)
      (start w).world).2.2 = .ok ())
    (file : fileBindings w.folder (pathOf ⟨own, []⟩ .scopeFile) = .ok bs)
    (well : Bindings.ofAssignments (Line.values ⟨own, []⟩ .variable) = .ok assigned) :
    let value := Formulary.evaluate
      ⟨(bs.extend assigned).scope, s.interpreter.legacyArgumentErrors⟩ e
    (run w args).deeds.output = Screen.Control.strip value.asText ++ "\n" ∧
      (run w args).ending =
        .exit (if Line.has ⟨own, []⟩ .strict && value.isError then 1 else 0) := by
  intro value
  obtain ⟨first, back, world, done, quiet⟩ := evaluate_on (d := start w) (r := .ofLine ⟨own, [e]⟩)
    configured opened file well
  obtain ⟨rfl, rfl⟩ := quiet silent
  have found : Command.ofRoot.lookup "eval" = some (some .evaluate) := by decide
  have led := follow_on (.direct root rfl found entered) (start w)
  have asked : act w (.ofLine ⟨general, "eval" :: rest⟩) .evaluate ⟨own, [e]⟩ =
      evaluate w (.ofLine ⟨general, []⟩) (.ofLine ⟨own, [e]⟩) := rfl
  have begins : (start w).output = "" := rfl
  rw [asked, done, begins, String.empty_append, String.empty_append, String.append_empty,
    Screen.Control.strip_newline] at led
  rw [run_eq, led, Outcome.ofResult_ite]
  exact ⟨rfl, rfl⟩

/-- A command line that asks for a value prints what the library finds, without the sequences that
would steer a terminal. Of the bindings of a name the last assignment counts, or else the last entry
of the file. Asked to be strict, it fails if the value is an error. -/
theorem evaluation_agrees (spelled : Spelled Command.root.switches general front)
    (calm : ∀ g ∈ general, g.key ∉ [Key.help, .version, .verbose])
    (spelledOwn : Spelled (Command.action .evaluate).switches own options)
    (calmOwn : ∀ g ∈ own, g.key ≠ .help)
    (sound : Sound w.folder general) (soundOwn : Sound w.folder own)
    (configured : loaded w (.ofLine ⟨general, []⟩) = .ok s)
    (accepted : Log.Format.isAccepted s.logging.format = true)
    (opens : ∀ path ∈ s.logging.file, (w.folder.makeWay path).isOk = true)
    {assignments : List Assignment}
    (assigned : Line.values ⟨own, []⟩ .variable = assignments.map Assignment.text)
    {filed : List Convertible}
    (holds : FileHolds w.folder (Line.value? ⟨own, []⟩ .scopeFile) filed) (e : String) :
    let last (bs : Bindings) (name : String) : Option Value := bs.reverse.lookup name
    let scope := Bindings.scope
      (filed.map Convertible.binding ++ assignments.map Assignment.binding)
    let value := Formulary.evaluate ⟨scope, s.interpreter.legacyArgumentErrors⟩ e
    let outcome := run w (front ++ "eval" :: (options ++ ["--", e]))
    (∀ name, scope.lookup name = ((last (assignments.map Assignment.binding) name).or
      (last (filed.map Convertible.binding) name)).map Datum.value) ∧
    outcome.deeds.output = Screen.Control.strip value.asText ++ "\n" ∧
    ('\x1b' ∉ value.asText.toList → outcome.deeds.output = value.asText ++ "\n") ∧
    outcome.ending = .exit (if Line.has ⟨own, []⟩ .strict && value.isError then 1 else 0) := by
  intro last scope value outcome
  have unhelped : ∀ g ∈ general, g.key ∉ [Key.help, .version] := fun g mem called =>
    calm g mem (List.mem_append_left [Key.verbose] called)
  have silent : Line.has ⟨general, []⟩ .verbose = false := by
    rw [Line.has, List.any_eq_false]
    intro g mem called
    exact calm g mem (by simp [eq_of_beq called])
  have eval : Line.isSwitch "eval" = false := by decide
  have root := entered_root (w := w) spelled unhelped sound eval (options ++ ["--", e])
  have entered := entered_evaluate (w := w) spelledOwn calmOwn soundOwn e
  -- A log that is to be quiet is set up under the same conditions.
  have opened :=
    (configure_quieted_iff (.ofLine ⟨general, []⟩) (start w).world).mpr ⟨accepted, opens⟩
  have well : Bindings.ofAssignments (Line.values ⟨own, []⟩ .variable) = _ :=
    (congrArg _ assigned).trans (Assignment.ofAssignments_text assignments)
  obtain ⟨printed, ended⟩ :=
    run_evaluation root entered silent configured opened (fileBindings_of_holds holds) well
  rw [Bindings.extend_ofList, Bindings.scope_ofList] at printed ended
  refine ⟨fun name => ?_, printed, fun plain => ?_, ended⟩
  · rw [Bindings.lookup_scope, List.reverse_append, List.lookup_append]
  · exact printed.trans (by rw [Screen.Control.strip_of_notMem plain])

def exampleSurroundings : Surroundings := { folder := [(["b.yaml"], "a: true\nb: x\n")] }

def exampleGeneral : List Given := [⟨.quiet, none⟩, ⟨.profile, some "DEV"⟩]

def exampleOwn : List Given :=
  [⟨.variable, some "a =TRUE"⟩, ⟨.scopeFile, some "./b.yaml"⟩, ⟨.variable, some " a=false"⟩,
    ⟨.strict, none⟩]

def exampleTokens : List Yaml.Token :=
  [.mappingStart, .key, .scalar "a" true, .value, .scalar "true" true, .key, .scalar "b" true,
    .value, .scalar "x" true, .blockEnd]

theorem spelled_exampleGeneral :
    Spelled Command.root.switches exampleGeneral ["-qp", "DEV"] := by
  refine .shared (s := ⟨.quiet, ["--quiet", "-q"], false⟩) (c := 'q') (by decide) (by decide) rfl
    (by decide) ?_
  exact .value (s := Command.profile) (by decide) (by decide) rfl .nil

theorem spelled_exampleOwn : Spelled (Command.action .evaluate).switches exampleOwn
    ["-V", "a =TRUE", "-s./b.yaml", "--var= a=false", "--strict"] := by
  let variable_ : Switch := ⟨.variable, ["--var", "-V"], true⟩
  have long : "--var" ∈ variable_.names := by decide
  refine .value (s := variable_) (by decide) (by decide) rfl ?_
  refine .joined (s := Command.scopeFile) (c := 's') (by decide) (by decide) nofun rfl ?_
  refine .equated (s := variable_) (by decide) long rfl rfl ?_
  exact .flag (s := ⟨.strict, ["--strict"], false⟩) (by decide) (by decide) rfl .nil

theorem loaded_example :
    loaded exampleSurroundings (.ofLine ⟨exampleGeneral, []⟩) = .ok .forDevelopment := by
  have found : (loaded exampleSurroundings (.ofLine ⟨exampleGeneral, []⟩)).toOption =
      some .forDevelopment := by decide +kernel
  cases loads : loaded exampleSurroundings (.ofLine ⟨exampleGeneral, []⟩) with
  | error f => simp [loads, Except.toOption] at found
  | ok s => simpa [loads, Except.toOption] using found

def exampleAssignments : List Assignment :=
  [⟨"a ", "TRUE", by decide +kernel, by decide⟩, ⟨" a", "false", by decide +kernel, by decide⟩]

def exampleFiled : List Convertible :=
  [⟨.text "a", .boolean true, .boolean true, rfl⟩, ⟨.text "b", .text "x", .string "x", rfl⟩]

def exampleSetting : Setting where
  scope := Bindings.scope
    (exampleFiled.map Convertible.binding ++ exampleAssignments.map Assignment.binding)
  legacy := Settings.forDevelopment.interpreter.legacyArgumentErrors

theorem example_agrees :
    let outcome := run exampleSurroundings (["-qp", "DEV"] ++ "eval" ::
      (["-V", "a =TRUE", "-s./b.yaml", "--var= a=false", "--strict"] ++ ["--", "IF(a, b, c)"]))
    outcome.deeds.output = "#NAME\n" ∧ outcome.ending = .exit 1 := by
  have sound : Sound exampleSurroundings.folder exampleGeneral :=
    ⟨by decide +kernel, by decide +kernel⟩
  have soundOwn : Sound exampleSurroundings.folder exampleOwn :=
    ⟨by decide +kernel, by decide +kernel⟩
  have read : Yaml.Stream.ofText (Text.unifyBreaks "a: true\nb: x\n".toList) =
      ⟨exampleTokens, none⟩ := by decide +kernel
  have holds : FileHolds exampleSurroundings.folder (Line.value? ⟨exampleOwn, []⟩ .scopeFile)
      exampleFiled :=
    ⟨"a: true\nb: x\n", by decide +kernel, Yaml.load_of_tokens read (by decide +kernel)⟩
  have assigned : Line.values ⟨exampleOwn, []⟩ .variable =
      exampleAssignments.map Assignment.text := by decide +kernel
  obtain ⟨-, -, printed, ended⟩ := evaluation_agrees spelled_exampleGeneral (by decide)
    spelled_exampleOwn (by decide) sound soundOwn loaded_example (by decide +kernel) nofun assigned
    holds "IF(a, b, c)"
  have text : (Formulary.evaluate exampleSetting "IF(a, b, c)").asText = "#NAME" := by
    decide +kernel
  have failed : (Formulary.evaluate exampleSetting "IF(a, b, c)").isError = true := by
    decide +kernel
  rw [exampleSetting] at text failed
  constructor
  · rw [printed (by rw [text]; decide), text]
    rfl
  · rw [ended, failed]
    rfl

theorem escape_is_left_out :
    let expression := "\"\x1b[31mx\""
    let value := Formulary.evaluate ⟨[], false⟩ expression
    let outcome := run {} ["eval", "--", expression]
    loaded {} {} = .ok {} ∧ value.asText = "\x1b[31mx" ∧ outcome.deeds.output = "x\n" ∧
      outcome.deeds.output ≠ value.asText ++ "\n" := by
  have loads : (loaded {} {}).toOption = some {} := by decide +kernel
  refine ⟨?_, by decide +kernel, by decide +kernel, by decide +kernel⟩
  cases found : loaded {} {} with
  | error f => simp [found, Except.toOption] at loads
  | ok s => simpa [found, Except.toOption] using loads

end Agreement

end Formulary.Command
