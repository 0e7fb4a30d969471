import Formulary.Data.Display
import Formulary.Data.Entries
import Formulary.Text.Split

set_option autoImplicit false

namespace Formulary.Entries

def place : Entries → String → List String → Datum → Entries
  | es, name, [], d => put es (.text name) d
  | es, name, next :: names, d =>
      put es (.text name) (.map (place (under es (.text name)) next names d))

def placeKey (separator : List Char) (es : Entries) (key : String) (d : Datum) : Entries :=
  match Text.split separator key.toList with
  | [] => es
  | name :: names => place es name names d

/-- Keys joined by a separator become paths; a later one wins over what is in its way. There is no
way to split by nothing. -/
def nest? (separator : String) (items : List (String × Datum)) : Option Entries :=
  if separator = "" ∧ items ≠ [] then none
  else some (items.foldl (fun es e => placeKey separator.toList es e.1 e.2) [])

mutual

def flattenUnder : String → Entries → List (String × Datum)
  | _, [] => []
  | front, (key, d) :: rest =>
      Datum.leaves (front ++ key.display) d ++ flattenUnder front rest

def Datum.leaves : String → Datum → List (String × Datum)
  | name, .map inner => flattenUnder (name ++ ".") inner
  | name, d => [(name, d)]

end

def flatten (es : Entries) : List (String × Datum) := flattenUnder "" es

end Formulary.Entries
