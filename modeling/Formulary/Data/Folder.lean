import Formulary.Data.Path

set_option autoImplicit false

namespace Formulary

/-- The files that can be seen, by the names on the way to them: from the working directory, or from
the root if the first name is a slash. -/
abbrev Folder := List (List String × String)

namespace Folder

def start (path : String) : List String := if Path.root path = "" then [] else ["/"]

def put : Folder → List String → String → Folder
  | [], place, text => [(place, text)]
  | (p, old) :: rest, place, text =>
      if p = place then (p, text) :: rest else (p, old) :: put rest place text

def ofList (files : List (String × String)) : Folder :=
  files.foldl (fun folder f => folder.put (start f.1 ++ Path.parts f.1) f.2) []

def isAbove (place : List String) : Bool := place.all (· == "..")

def isDirectory (folder : Folder) (place : List String) : Bool :=
  isAbove place || place == ["/"] || folder.any fun f => place != f.1 && place.isPrefixOf f.1

def isFile (folder : Folder) (place : List String) : Bool := (folder.lookup place).isSome

/-- `..` leads back from a directory. Every name but the last has to lead to a directory, an empty
one and `.` as well. -/
def walk (folder : Folder) : List String → List String → Option (List String)
  | place, [] => some place
  | place, name :: names =>
      if !folder.isDirectory place then none
      else if name = "" ∨ name = "." then walk folder place names
      else if name = ".." then
        if place = ["/"] then walk folder place names
        else if isAbove place then walk folder (place ++ [name]) names
        else walk folder place.dropLast names
      else walk folder (place ++ [name]) names

def read? (folder : Folder) (path : String) : Option String := do
  folder.lookup (← folder.walk (start path) (Path.parts path))

def step (place : List String) (name : String) : List String :=
  if name = ".." then
    if place = ["/"] then place
    else if isAbove place then place ++ [name]
    else place.dropLast
  else place ++ [name]

def stops (place : List String) : List String → List (List String)
  | [] => []
  | name :: names => place :: stops (step place name) names

def target (path : String) : List String := (Path.parts path).foldl step (start path)

-- A directory is known by what lies in it; a new one holds a file without a name.
def makeDirectory (folder : Folder) (place : List String) : Folder :=
  if folder.isDirectory place then folder else folder.put (place ++ [""]) ""

inductive Obstacle where
  -- No name holds a null character.
  | nullCharacter
  | isDirectory
  -- What should be a directory on the way to the file is a file.
  | parentIsFile
  | ancestorIsFile
deriving Repr, DecidableEq

def makeWay (folder : Folder) (path : String) : Except Obstacle Folder :=
  let way := stops (start path) (Path.parts path)
  let made := way.foldl makeDirectory folder
  if path.toList.contains '\x00' then .error .nullCharacter
  else if way.dropLast.any folder.isFile then .error .ancestorIsFile
  else if way.any folder.isFile then .error .parentIsFile
  else if made.isDirectory (target path) then .error .isDirectory
  else .ok made

inductive Kind where
  | missing
  | directory
  | file
deriving DecidableEq

def kind (folder : Folder) (path : String) : Kind :=
  if path = "" then .missing
  else
    match folder.walk (start path) (Text.split ['/'] path.toList) with
    | none => .missing
    | some place =>
        if folder.isFile place then .file
        else if folder.isDirectory place then .directory
        else .missing

end Folder

end Formulary
