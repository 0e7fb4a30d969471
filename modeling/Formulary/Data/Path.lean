import Formulary.Text.Split

set_option autoImplicit false

namespace Formulary.Path

-- A path in normal form has no empty and no `.` parts. Two slashes in front stay two, more are
-- one.

def slashes (path : String) : Nat := (path.toList.takeWhile (· == '/')).length

def root (path : String) : String :=
  match slashes path with
  | 0 => ""
  | 2 => "//"
  | _ => "/"

def parts (path : String) : List String :=
  (Text.split ['/'] path.toList).filter fun part => part != "" && part != "."

def join (root : String) (parts : List String) : String :=
  if root = "" ∧ parts = [] then "." else root ++ "/".intercalate parts

def normal (path : String) : String := join (root path) (parts path)

def parent (path : String) : String := join (root path) (parts path).dropLast

def isHomeMark (part : String) : Bool := part.toList.head? == some '~'

structure Homes where
  own : Option String := none
  accounts : List (String × String) := []
deriving Repr, DecidableEq

def Homes.of? (homes : Homes) (mark : String) : Option String :=
  if mark = "~" then homes.own else homes.accounts.lookup (String.ofList (mark.toList.drop 1))

def expand? (homes : Homes) (path : String) : Option String :=
  match root path, parts path with
  | "", part :: rest =>
      if isHomeMark part then do
        let home ← homes.of? part
        let shown := String.ofList (home.toList.reverse.dropWhile (· == '/')).reverse
        let base := if shown = "" then "/" else shown
        if isHomeMark base then none else some (join (root base) (parts base ++ rest))
      else some (normal path)
  | _, _ => some (normal path)

end Formulary.Path
