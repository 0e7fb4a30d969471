import Formulary.Data.Folder
import Formulary.Log.Format
import Formulary.Settings.Basic

set_option autoImplicit false

namespace Formulary.Log

inductive Outlet where
  | console
  | file (place : List String)
  | nowhere
deriving Repr, DecidableEq

inductive SetupFault where
  -- The format shows no field.
  | format
  | file (obstacle : Folder.Obstacle)
deriving Repr, DecidableEq

def loggerName : String := "sheetcalc"

structure Logger where
  severity : Nat := 0
  format : String := ""
  outlets : List Outlet := []

structure World where
  console : String := ""
  files : Folder := []

namespace World

def append (w : World) (place : List String) (text : String) : World :=
  { w with files := w.files.put place ((w.files.lookup place).getD "" ++ text) }

def write (w : World) (text : String) : Outlet → World
  | .console => { w with console := w.console ++ text }
  | .file place => w.append place text
  | .nowhere => w

end World

namespace Logger

def consoleOutlets (s : LoggingSettings) : List Outlet := if s.console then [.console] else []

def fileOutlets (s : LoggingSettings) (w : World) : Except SetupFault (List Outlet × World) :=
  match s.file with
  | none => .ok ([], w)
  | some path => do
      let files ← (w.files.makeWay path).mapError SetupFault.file
      let place := Folder.target path
      return ([.file place], { w with files := files }.append place "")

-- The old outlets are closed first, and the level is set even if the new ones are refused.
def configure (s : LoggingSettings) (w : World) : Logger × World × Except SetupFault Unit :=
  let bare : Logger := { severity := s.level.severity, format := s.format }
  if !Format.isAccepted s.format then (bare, w, .error .format)
  else
    match fileOutlets s w with
    | .error fault => (bare, w, .error fault)
    | .ok (files, w) =>
        let outlets := match consoleOutlets s ++ files with
          | [] => [.nowhere]
          | some_ => some_
        ({ bare with outlets := outlets }, w, .ok ())

def child (name : String) : String := loggerName ++ "." ++ name

def send (l : Logger) (r : Record) (w : World) : World :=
  if r.level.severity < l.severity then w
  else
    match Format.line? l.format r with
    | none => w
    | some line => l.outlets.foldl (fun w o => w.write line o) w

end Logger

end Formulary.Log
