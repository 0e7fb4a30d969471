import Formulary.Data.Folder
import Formulary.Data.Nesting
import Formulary.Json.Print
import Formulary.Screen.Markup
import Formulary.Screen.Table
import Formulary.Settings.Form
import Formulary.Yaml.Print

set_option autoImplicit false

namespace Formulary

inductive OutputFormat where
  | yaml
  | json
  | table
deriving Repr, DecidableEq

namespace OutputFormat

def text : OutputFormat → String
  | .yaml => "yaml"
  | .json => "json"
  | .table => "table"

def every : List OutputFormat := [.yaml, .json, .table]

def ofText? (s : String) : Option OutputFormat := every.find? (·.text == s)

end OutputFormat

inductive OutputFault where
  | unknownFormat (name : String)
  | notMapping
  -- The format has no words for something in the data.
  | unwritable (format : OutputFormat)
  -- A name closes a tag that is not open.
  | tag
deriving Repr, DecidableEq

namespace OutputFault

def message? : OutputFault → Option String
  | .unknownFormat name => some ("Invalid format type: " ++ name)
  | .notMapping => some "Table format requires dict data"
  | .unwritable _ | .tag => none

end OutputFault

namespace Entries

open Screen

def tableWidth : Nat := 120

def titleOf (title : String) : Option String := if title = "" then none else some title

def orTag {α : Type} (x : Option α) : Except OutputFault α :=
  match x with
  | some a => .ok a
  | none => .error .tag

def table (title : Option String) (es : Entries) : Except OutputFault String := do
  let rows ← (flatten es).mapM fun leaf => do
    let name ← orTag (Markup.shown? leaf.1.toList)
    return [name, Markup.literal leaf.2.display.toList]
  let title ← (title.bind titleOf).mapM fun t => orTag (Markup.shown? t.toList)
  let columns : List Column := [⟨"Setting", true⟩, ⟨"Value", false⟩]
  return { title := title, columns := columns, rows := rows : Table }.text tableWidth

end Entries

namespace Datum

def orUnwritable (format : OutputFormat) (x : Option String) : Except OutputFault String :=
  match x with
  | some s => .ok s
  | none => .error (.unwritable format)

def render (d : Datum) : OutputFormat → Except OutputFault String
  | .yaml => orUnwritable .yaml (Yaml.print? d)
  | .json => orUnwritable .json (Json.print? d)
  | .table =>
      match d with
      | .map entries => Entries.table none entries
      | _ => .error .notMapping

def renderAs (d : Datum) (format : String) : Except OutputFault String :=
  match OutputFormat.ofText? format with
  | some f => d.render f
  | none => .error (.unknownFormat format)

end Datum

namespace Settings

def toYaml (includeDefaults : Bool) (s : Settings) : String :=
  (Yaml.print? (.map (s.entries includeDefaults))).getD ""

def save (folder : Folder) (path : String) (includeDefaults : Bool) (s : Settings) :
    Except Folder.Obstacle Folder :=
  (folder.makeWay path).map fun made => made.put (Folder.target path) (s.toYaml includeDefaults)

end Settings

end Formulary
