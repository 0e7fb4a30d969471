import Formulary.Command.Act
import Std.Time

set_option autoImplicit false

namespace Formulary.Terminal

def pathsIn (arg : String) : List String :=
  [arg, String.ofList (arg.toList.drop 2)] ++ (Command.Line.afterEquals arg).toList

def waysTo (path : String) : List String :=
  let parts := Path.parts path
  (List.range parts.length).map fun n => Path.join (Path.root path) (parts.take (n + 1))

-- A directory is known by a nameless file in it.
def find (folder : Folder) (path : String) : IO Folder := do
  try
    let real ← IO.FS.realPath path
    match folder.walk (Folder.start path) (Path.parts path) with
    | none => return folder
    | some place =>
        if ← real.isDir then return folder.put (place ++ [""]) ""
        else return folder.put place (← IO.FS.readFile path)
  catch _ => return folder

def findAll (args : List String) : IO Folder :=
  ((args.flatMap pathsIn).flatMap waysTo).foldlM find []

def setting? (entry : String) : Option (String × String) :=
  (Command.Line.afterEquals entry).map fun value => (Command.Line.beforeEquals entry, value)

def readEnvironment : IO Environment := do
  try
    let entries := Text.split ['\x00'] (← IO.FS.readFile "/proc/self/environ").toList
    return Environment.ofList (entries.filterMap setting?)
  catch _ => return Environment.ofList (((← IO.getEnv "HOME").map fun h => ("HOME", h)).toList)

def clock : IO Log.Origin := do
  let now ← Std.Time.PlainDateTime.now
  return { time := now.format "uuuu-MM-dd HH:mm:ss,SSS" }

def linesOf (path : String) : IO (List String) := do
  try return Text.split ['\n'] (← IO.FS.readFile path).toList
  catch _ => return []

def user? (line : String) : Option String :=
  match Text.split ['\t'] line.toList with
  | "Uid:" :: user :: _ => some user
  | _ => none

def account? (line : String) : Option (String × String × String) :=
  match Text.split [':'] line.toList with
  | name :: _ :: user :: _ :: _ :: home :: _ => some (name, user, home)
  | _ => none

def readHomes : IO Path.Homes := do
  let user := (← linesOf "/proc/self/status").findSome? user?
  let accounts := (← linesOf "/etc/passwd").filterMap account?
  return {
    own := (accounts.find? fun account => some account.2.1 == user).map (·.2.2)
    accounts := accounts.map fun account => (account.1, account.2.2) }

def append (before : Folder) (file : List String × String) : IO Unit := do
  let known := ((before.lookup file.1).getD "").length
  let added := String.ofList (file.2.toList.drop known)
  if added != "" then
    let (root, parts) := if file.1.head? = some "/" then ("/", file.1.drop 1) else ("", file.1)
    let path := Path.join root parts
    IO.FS.createDirAll (Path.parent path)
    IO.FS.withFile path .append fun h => h.putStr added

def start (args : List String) : IO UInt32 := do
  let folder ← findAll args
  let surroundings : Command.Surroundings :=
    { folder := folder, environment := ← readEnvironment, homes := ← readHomes,
      origin := ← clock }
  let outcome := Command.run surroundings args
  outcome.deeds.world.files.forM (append folder)
  IO.print outcome.deeds.output
  IO.eprint (outcome.deeds.world.console ++ outcome.ending.told)
  return UInt32.ofNat outcome.ending.status

end Formulary.Terminal

def main (args : List String) : IO UInt32 := Formulary.Terminal.start args
