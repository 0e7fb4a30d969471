import Formulary.Data.Display
import Formulary.Data.Folder
import Formulary.Formula.Session
import Formulary.Text.Line
import Formulary.Yaml.Content

set_option autoImplicit false

namespace Formulary

abbrev Bindings := List (String × Value)

inductive BindingFault where
  | noAssignment (text : String)
  | notMapping (kind : String)
  | unconvertible (kind : String)
  | tooLarge
  | flawed (flaw : Yaml.Flaw)
deriving Repr, DecidableEq

namespace BindingFault

def badValue (switch reason : String) : String := "Invalid value for " ++ switch ++ ": " ++ reason

def message? : BindingFault → Option String
  | .noAssignment text =>
      some (badValue "--var" ("Expected NAME=VALUE, got " ++ Text.quoted text))
  | .notMapping kind =>
      some (badValue "--scope-file" ("Scope file must contain a mapping, got " ++ kind))
  | .unconvertible kind => some (badValue "--scope-file" (Fault.unconvertibleText kind))
  | .tooLarge | .flawed _ => none

end BindingFault

namespace Value

def unquoted? (s : String) : Option String :=
  match s.toList with
  | '"' :: cs =>
      match cs.reverse with
      | '"' :: inner => some (String.ofList inner.reverse)
      | _ => none
  | _ => none

-- Quotes make a text of anything; a truth word and a number are what they look like.
def ofText (s : String) : Value :=
  match unquoted? s with
  | some inner => .string inner
  | none =>
      match Token.boolean? s, Numeral.signed? s with
      | some b, _ => .boolean b
      | none, some x => .number x
      | none, none => .string s

end Value

namespace Bindings

def bind : Bindings → String → Value → Bindings
  | [], name, v => [(name, v)]
  | (n, old) :: rest, name, v =>
      if n = name then (n, v) :: rest else (n, old) :: bind rest name v

def ofList (items : List (String × Value)) : Bindings :=
  items.foldl (fun bs b => bind bs b.1 b.2) []

def ofAssignment (text : String) : Except BindingFault (String × Value) :=
  match text.toList.dropWhile (· != '=') with
  | '=' :: value =>
      let name := Text.trimmed (String.ofList (text.toList.takeWhile (· != '=')))
      if name = "" then .error (.noAssignment text)
      else .ok (name, Value.ofText (String.ofList value))
  | _ => .error (.noAssignment text)

def ofAssignments (texts : List String) : Except BindingFault Bindings := do
  return ofList (← texts.mapM ofAssignment)

def convert (d : Datum) : Except BindingFault Value :=
  match d.toValue with
  | .ok v => .ok v
  | .error .tooLarge => .error .tooLarge
  | .error _ => .error (.unconvertible d.kind)

def ofEntries (es : Entries) : Except BindingFault Bindings := do
  return ofList (← es.mapM fun e => do return (e.1.display, ← convert e.2))

def ofYaml (text : String) : Except BindingFault Bindings :=
  match Yaml.load (Text.unifyBreaks text.toList) with
  | .error flaw => .error (.flawed flaw)
  | .ok .null => .ok []
  | .ok (.map es) => ofEntries es
  | .ok d => .error (.notMapping d.kind)

def extend (bs more : Bindings) : Bindings := ofList (bs ++ more)

def scope (bs : Bindings) : Scope := Scope.ofList (bs.map fun b => (b.1, .value b.2))

end Bindings

end Formulary
