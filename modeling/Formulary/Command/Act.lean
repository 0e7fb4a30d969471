import Formulary.Command.Run
import Formulary.Function.Catalog

set_option autoImplicit false

namespace Formulary.Command

open Screen (Column Table)

structure General where
  configFile : Option String := none
  profile : String := "default"
  verbose : Bool := false
  quiet : Bool := false

def pathOf (line : Line) (key : Key) : Option String := (line.value? key).map Path.normal

def General.ofLine (line : Line) : General where
  configFile := pathOf line .configFile
  profile := ((line.value? .profile).bind (choice? Settings.profileNames)).getD "default"
  verbose := line.has .verbose
  quiet := line.has .quiet

def isTold : LoadFault → Bool
  | .flawedFile .malformed | .flawedFile .outOfKind => true
  | .flawedFile _ | .unknownHome => false
  | .unknownProfile _ | .missingFile _ | .notMapping _ _ | .invalid _ => true

def leaveOn {α : Type} (front : String) (f : LoadFault) : Run α :=
  if isTold f then Run.fail (front ++ f.text) else Run.leave (.crash (.settings f))

def loadSettings (w : Surroundings) (g : General) : Run Settings := do
  let s ← Run.orElse (leaveOn "Failed to load configuration: ")
    (Settings.load w.folder w.environment g.profile { file := g.configFile, homes := w.homes })
  if g.verbose then
    Run.tell (.success ("Loaded configuration from profile: " ++ g.profile))
    match g.configFile with
    | some path => Run.tell (.success ("Applied overrides from: " ++ path))
    | none => pure ()
  return s

def setUp (s : LoggingSettings) : Run Log.Logger := do
  let d ← get
  let (logger, world, result) := Log.Logger.configure s d.world
  set { d with world := world }
  Run.orElse (fun f => Run.leave (.crash (.logger f))) result
  return logger

def report (w : Surroundings) (logger : Log.Logger) (e : Event) : Run Unit :=
  let record : Log.Record := {
    logger := Log.Logger.child "engine.interpreter", level := e.level,
    message := e.message w.elapsed, origin := w.origin }
  modify fun d => { d with world := logger.send record d.world }

structure Request where
  expression : String
  assignments : List String := []
  scopeFile : Option String := none
  debug : Option Bool := none
  strict : Bool := false

def Request.ofLine (line : Line) : Request where
  expression := line.rest.headD ""
  assignments := line.values .variable
  scopeFile := pathOf line .scopeFile
  debug := ((line.given.filter fun g => g.key == .debug || g.key == .noDebug).getLast?).map
    (·.key == .debug)
  strict := line.has .strict

def orBindings {α : Type} (r : Except BindingFault α) : Run α :=
  Run.orElse (fun f =>
    match f.message? with
    | some message => Run.leave (.misuse (.action .evaluate) (.badBinding message))
    | none => Run.leave (.crash (.bindings f))) r

def fileBindings (folder : Folder) : Option String → Except BindingFault Bindings
  | none => .ok []
  | some path => Bindings.ofYaml ((folder.read? path).getD "")

def trailNotices (t : Trail) : List Screen.Notice :=
  let tokens := t.tokens.map fun token => Text.quoted token.text
  [.information ("Tokens: [" ++ ", ".intercalate tokens ++ "]"),
    .information ("Stopped at token " ++ toString t.position ++ " of " ++
      toString t.tokens.length)]

def evaluate (w : Surroundings) (g : General) (r : Request) : Run Unit := do
  let settings ← loadSettings w g
  let logging := settings.logging
  let logger ← setUp (if g.quiet then { logging with level := .error } else logging)
  let debug := r.debug.getD settings.interpreter.debug
  let interpreter : Interpreter := ⟨debug, settings.interpreter.legacyArgumentErrors, {}⟩
  let bindings ← orBindings (fileBindings w.folder r.scopeFile)
  let assigned ← orBindings (Bindings.ofAssignments r.assignments)
  let (after, value, events) := interpreter.evaluate (bindings.extend assigned).scope r.expression
  events.forM (report w logger)
  Run.echo (value.asText ++ "\n")
  if debug && g.verbose then (trailNotices after.trail).forM Run.tell
  if r.strict && value.isError then Run.leave (.exit 1)

def plainTable (title : String) (columns : List Column) (rows : List (List String)) : Table where
  title := some title.toList
  columns := columns
  rows := rows.map fun row => row.map String.toList

def functionTable : Table :=
  plainTable "Built-in functions" [⟨"Name", true⟩, ⟨"Signature", false⟩]
    (Function.builtIn.signatures.map fun s => [s.name, s.describe])

def profileTable : Table :=
  plainTable "Configuration profiles"
    [⟨"Profile", true⟩, ⟨"Debug", false⟩, ⟨"Legacy argument errors", false⟩, ⟨"Log level", false⟩]
    (Settings.profiles.map fun s => [
      s.profile, (Datum.boolean s.interpreter.debug).display,
      (Datum.boolean s.interpreter.legacyArgumentErrors).display, s.logging.level.text])

def printTable (t : Table) : Run Unit := Run.print (t.text Screen.screenWidth)

def formatOf (line : Line) : OutputFormat :=
  (((line.value? .format).bind (choice? formatChoices)).bind OutputFormat.ofText?).getD .yaml

def showSettings (w : Surroundings) (g : General) (format : OutputFormat) : Run Unit := do
  let s ← loadSettings w g
  let shown ← Run.orElse (fun f => Run.leave (.crash (.output f)))
    ((Datum.map s.toEntries).render format)
  Run.echo (shown ++ "\n")

-- Looks at a file and the profile below it, not at the environment.
def validate (w : Surroundings) (g : General) (own : Option String) : Run Unit := do
  match own <|> g.configFile with
  | none => Run.fail "No configuration file specified. Use --config-file or -c."
  | some path =>
      match Settings.load w.folder w.environment g.profile
          { file := some path, useEnvironment := false } with
      | .ok _ => Run.tell (.success ("Configuration is valid: " ++ path))
      | .error (.invalid issues) =>
          Run.tell (.error ("Configuration is invalid: " ++ path))
          issues.forM fun i => Run.echo ("  " ++ i.text ++ "\n")
          Run.leave (.exit 1)
      | .error f => leaveOn "Cannot read configuration: " f

def perform (w : Surroundings) (g : General) (a : Action) (args : List String) : Run Unit := do
  let line ← enter w (.action a) args
  match a with
  | .evaluate => evaluate w g (.ofLine line)
  | .functions => printTable functionTable
  | .profiles => printTable profileTable
  | .show => showSettings w g (formatOf line)
  | .validate => validate w g (pathOf line .configFile)

def follow (w : Surroundings) (args : List String) : Run Unit := do
  let line ← enter w .root args
  let general := General.ofLine line
  match ← pick w .root ofRoot line.rest with
  | (some a, args) => perform w general a args
  | (none, args) =>
      let line ← enter w .config args
      let (a, args) ← pick w .config ofConfig line.rest
      perform w general a args

structure Outcome where
  deeds : Deeds
  ending : Ending

def run (w : Surroundings) (args : List String) : Outcome :=
  let start : Deeds := { world := { files := w.folder } }
  let (result, deeds) := (follow w args).run.run start
  match result with
  | .ok () => ⟨deeds, .exit 0⟩
  | .error ending => ⟨deeds, ending⟩

end Formulary.Command
