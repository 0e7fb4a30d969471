import Formulary.Data.Environment
import Formulary.Data.Folder
import Formulary.Data.Overlay
import Formulary.Settings.Form
import Formulary.Text.Line
import Formulary.Yaml.Content

set_option autoImplicit false

namespace Formulary

inductive LoadFault where
  | unknownProfile (name : String)
  | missingFile (path : String)
  | flawedFile (flaw : Yaml.Flaw)
  | notMapping (path kind : String)
  | unknownHome
  | invalid (issues : List Issue)
deriving Repr, DecidableEq

namespace LoadFault

def message? : LoadFault → Option String
  | .unknownProfile name =>
      some ("Profile " ++ Text.quoted name ++ " not found. Available profiles: " ++
        ", ".intercalate Settings.profileNames)
  | .missingFile path => some ("Configuration file not found: " ++ path)
  | .notMapping path kind => some (path ++ " must contain a mapping, got " ++ kind)
  | .flawedFile _ | .unknownHome | .invalid _ => none

def text : LoadFault → String
  | .flawedFile .malformed => "the file is not valid YAML"
  | .flawedFile _ => "a value of the file is out of range"
  | .invalid issues => "; ".intercalate (issues.map Issue.text)
  | f => f.message?.getD "the home directory is not known"

end LoadFault

namespace Folder

def loadYaml (folder : Folder) (path : String) : Except LoadFault Entries :=
  let path := Path.normal path
  match folder.read? path with
  | none => .error (.missingFile path)
  | some text =>
      match Yaml.load (Text.unifyBreaks text.toList) with
      | .error flaw => .error (.flawedFile flaw)
      | .ok .null => .ok []
      | .ok (.map entries) => .ok entries
      | .ok d => .error (.notMapping path d.kind)

end Folder

namespace Settings

def variableStart : String := "SHEETCALC_"

structure Sources where
  file : Option String := none
  useEnvironment : Bool := true
  homes : Path.Homes := {}
  overrides : List (String × Datum) := []

def profileEntries (name : String) : Except LoadFault Entries :=
  match named? name with
  | some s => .ok s.toEntries
  | none => .error (.unknownProfile name)

def fileEntries (folder : Folder) (file : Option String) : Except LoadFault Entries :=
  match file with
  | none => .ok []
  | some path => folder.loadYaml path

def environmentEntries (env : Environment) (homes : Path.Homes) (isUsed : Bool) :
    Except LoadFault Entries :=
  if isUsed then
    match env.entries? (env.homes homes) variableStart with
    | some es => .ok es
    | none => .error .unknownHome
  else .ok []

def overrideEntries (overrides : List (String × Datum)) : Entries :=
  (Entries.nest? Environment.nestingSeparator overrides).getD []

/-- The profile, the file, the environment and the overrides, each laid over the one before. -/
def load (folder : Folder) (env : Environment) (profile : String) (sources : Sources) :
    Except LoadFault Settings := do
  let base ← profileEntries profile
  let file ← fileEntries folder sources.file
  let outside ← environmentEntries env sources.homes sources.useEnvironment
  let all := Entries.layered [base, file, outside, overrideEntries sources.overrides]
  (ofEntries all).mapError .invalid

end Settings

end Formulary
