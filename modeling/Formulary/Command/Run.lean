import Formulary.Command.Binding
import Formulary.Command.Page
import Formulary.Log.Logger
import Formulary.Output
import Formulary.Screen.Control
import Formulary.Settings.Layers

set_option autoImplicit false

namespace Formulary.Command

structure Surroundings where
  folder : Folder := []
  environment : Environment := []
  homes : Path.Homes := {}
  -- What only the host can tell of a message in the log, and the time that an evaluation takes.
  origin : Log.Origin := {}
  elapsed : String := "0.000"

inductive Crash where
  | settings (fault : LoadFault)
  | bindings (fault : BindingFault)
  | logger (fault : Log.SetupFault)
  | output (fault : OutputFault)
deriving Repr, DecidableEq

inductive Ending where
  | exit (status : Nat)
  | misuse (command : Command) (m : Misuse)
  | idle (group : Command)
  | crash (cause : Crash)
deriving Repr, DecidableEq

namespace Ending

def status : Ending → Nat
  | .exit status => status
  | .misuse _ _ | .idle _ => 2
  | .crash _ => 1

def told : Ending → String
  | .exit _ | .crash _ => ""
  | .idle group => group.page
  | .misuse command m =>
      let hint := command.usage ++ "\nTry '" ++ command.path ++ " --help' for help.\n\n"
      Screen.Control.strip ((if m.isBare then "" else hint) ++ "Error: " ++ m.message ++ "\n")

end Ending

structure Deeds where
  output : String := ""
  world : Log.World := {}

-- What was done stays done however the command ends.
abbrev Run (α : Type) := ExceptT Ending (StateM Deeds) α

namespace Run

def print (text : String) : Run Unit := modify fun d => { d with output := d.output ++ text }

-- Plain lines are for any reader, so nothing in them may steer a terminal.
def echo (text : String) : Run Unit := print (Screen.Control.strip text)

def tell (n : Screen.Notice) : Run Unit := print n.text

def leave {α : Type} (e : Ending) : Run α := throw e

def fail {α : Type} (message : String) : Run α := do
  tell (.error message)
  leave (.exit 1)

def orElse {ε α : Type} (way : ε → Run α) : Except ε α → Run α
  | .ok a => pure a
  | .error e => way e

def orMisuse {α : Type} (c : Command) (r : Except Misuse α) : Run α :=
  orElse (fun m => leave (.misuse c m)) r

end Run

def choice? (choices : List String) (text : String) : Option String :=
  let folded (s : String) : String := Text.lower (Text.upper s)
  choices.find? fun c => folded c == folded text

def formatChoices : List String := OutputFormat.every.map OutputFormat.text

def namesOf (c : Command) (key : Key) : List String :=
  ((c.switches.find? (·.key == key)).map Switch.names).getD []

def checkFile (folder : Folder) (names : List String) (path : String) : Except Misuse Unit :=
  match folder.kind path with
  | .file => .ok ()
  | .directory => .error (.isDirectory names path)
  | .missing => .error (.missingFile names path)

def checkChoice (choices names : List String) (text : String) : Except Misuse Unit :=
  match choice? choices text with
  | some _ => .ok ()
  | none => .error (.notListed names text choices)

def checkValue (folder : Folder) (c : Command) (line : Line) (key : Key) : Except Misuse Unit :=
  match key, line.value? key with
  | .configFile, some path | .scopeFile, some path => checkFile folder (namesOf c key) path
  | .profile, some text => checkChoice Settings.profileNames (namesOf c key) text
  | .format, some text => checkChoice formatChoices (namesOf c key) text
  | _, _ => .ok ()

def checkRest (c : Command) (rest : List String) : Except Misuse Unit :=
  match c.isGroup, c.takesExpression, rest with
  | true, _, _ | _, true, [_] | _, false, [] => .ok ()
  | _, true, [] => .error (.missingArgument argumentName)
  | _, true, _ :: more => .error (.extraArguments more)
  | _, false, more => .error (.extraArguments more)

def version : String := "0.1.0"

def versionText : String := programName ++ ", version " ++ version ++ "\n"

/-- Reads the arguments of a command. A call for help comes before all but a line that makes no
sense; values are checked in the order of their switches. -/
def enter (w : Surroundings) (c : Command) (args : List String) : Run Line := do
  if c.isGroup && args.isEmpty then Run.leave (.idle c)
  let line ← Run.orMisuse c (Line.scan c.switches (!c.isGroup) args)
  match line.first? [.help, .version] with
  | none => pure ()
  | some key =>
      Run.echo (if key = .version then versionText else c.page)
      Run.leave (.exit 0)
  Run.orMisuse c (line.given.forM fun g => checkValue w.folder c line g.key)
  Run.orMisuse c (checkRest c line.rest)
  return line

def pick {α : Type} (w : Surroundings) (c : Command) (members : List (String × α)) :
    List String → Run (α × List String)
  | [] => Run.leave (.misuse c .missingCommand)
  | name :: rest =>
      match members.lookup name with
      | some member => return (member, rest)
      | none => do
          if name.toList.head? = some '-' then discard (enter w c (name :: rest))
          Run.leave (.misuse c (.noSuchCommand name (Text.similar name (members.map Prod.fst))))

end Formulary.Command
