import Formulary.Data.Nesting
import Formulary.Data.Path
import Formulary.Decimal.Free
import Formulary.Text.Blank

set_option autoImplicit false

namespace Formulary

abbrev Environment := List (String × String)

namespace Environment

def set : Environment → String → String → Environment
  | [], name, text => [(name, text)]
  | (n, old) :: rest, name, text =>
      if n = name then (n, text) :: rest else (n, old) :: set rest name text

def ofList (vars : List (String × String)) : Environment :=
  vars.foldl (fun env v => set env v.1 v.2) []

-- A home that the environment names goes before that of the account.
def homes (env : Environment) (known : Path.Homes) : Path.Homes :=
  { known with own := (env.lookup "HOME").or known.own }

def pathStarts : List String := ["/", "./", "../", "~/"]

def looksLikePath (text : String) : Bool :=
  pathStarts.any fun start => start.toList.isPrefixOf text.toList

def truthWord? (word : String) : Option Bool :=
  if word ∈ ["true", "yes", "on"] then some true
  else if word ∈ ["false", "no", "off"] then some false
  else none

def datum? (homes : Path.Homes) (text : String) : Option Datum :=
  match truthWord? (Text.lower (Text.trimmed text)) with
  | some b => some (.boolean b)
  | none =>
      match Numeral.freeInteger? text with
      | some n => some (.integer n)
      | none =>
          match Numeral.freeFloat? text with
          | some x => some (.float x)
          | none =>
              if looksLikePath text then (Path.expand? homes text).map .path
              else some (.text text)

def nestingSeparator : String := "__"

def afterStart? (start name : String) : Option String :=
  if start.toList.isPrefixOf name.toList then
    some (String.ofList (name.toList.drop start.length))
  else none

def entries? (homes : Path.Homes) (start : String) (env : Environment) : Option Entries := do
  let items ← env.mapM fun v =>
    match afterStart? start v.1 with
    | none => some []
    | some name => (datum? homes v.2).map fun d => [(Text.lower name, d)]
  Entries.nest? nestingSeparator items.flatten

end Environment

end Formulary
