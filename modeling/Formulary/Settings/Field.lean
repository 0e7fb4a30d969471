import Formulary.Data.Entries
import Formulary.Data.Path
import Formulary.Issue
import Formulary.Log.Level

set_option autoImplicit false

namespace Formulary.Settings.Field

abbrev Checked (α : Type) := Except (List Issue) α

def along {α β : Type} (f : Checked (α → β)) (a : Checked α) : Checked β :=
  match f, a with
  | .ok f, .ok a => .ok (f a)
  | .error xs, .ok _ => .error xs
  | .ok _, .error ys => .error ys
  | .error xs, .error ys => .error (xs ++ ys)

def single {α : Type} (es : Entries) (name : String) (usual : α)
    (read : Datum → Except Defect α) : Checked α :=
  match Entries.get? es (.text name) with
  | none => .ok usual
  | some d => (read d).mapError fun defect => [⟨[name], defect⟩]

def nested {α : Type} (es : Entries) (name form : String) (usual : α)
    (read : Entries → Checked α) : Checked α :=
  match Entries.get? es (.text name) with
  | none => .ok usual
  | some (.map inner) =>
      (read inner).mapError fun issues =>
        issues.map fun i => { i with location := name :: i.location }
  | some _ => .error [⟨[name], .notSection form⟩]

def truthWord? (word : String) : Option Bool :=
  let lowered := String.ofList (word.toList.map Char.toLower)
  if lowered ∈ ["1", "on", "t", "true", "y", "yes"] then some true
  else if lowered ∈ ["0", "off", "f", "false", "n", "no"] then some false
  else none

def truthOfText (word : String) : Except Defect Bool :=
  match truthWord? word with
  | some b => .ok b
  | none => .error .unreadableBoolean

def wordLimit : Int := 0x8000000000000000

def truthOfInteger (n : Int) : Except Defect Bool :=
  if n = 0 then .ok false
  else if n = 1 then .ok true
  else if -wordLimit ≤ n ∧ n < wordLimit then .error .unreadableBoolean
  else .error .notBoolean

-- The end of the range is not a double that counts as within.
def truthOfFloat (x : Float) : Except Defect Bool :=
  match Decimal.intOfFloat? x with
  | some n => if n = -wordLimit then .error .notBoolean else truthOfInteger n
  | none => .error .notBoolean

def utf8? (bs : List UInt8) : Option String := String.fromUTF8? (ByteArray.mk bs.toArray)

def boolean : Datum → Except Defect Bool
  | .boolean b => .ok b
  | .text s => truthOfText s
  | .integer n => truthOfInteger n
  | .float x => truthOfFloat x
  | .scalar (.bytes bs) =>
      match utf8? bs with
      | some s => truthOfText s
      | none => .error .unreadableBoolean
  | _ => .error .notBoolean

def text : Datum → Except Defect String
  | .text s => .ok s
  | .scalar (.bytes bs) =>
      match utf8? bs with
      | some s => .ok s
      | none => .error .unreadableText
  | _ => .error .notText

def level (d : Datum) : Except Defect Level :=
  let named : Option Level := match d with
    | .text s => Level.ofText? (Text.upper s)
    | _ => none
  match named with
  | some l => .ok l
  | none => .error (.notListed (Level.every.map Level.text))

def path? : Datum → Except Defect (Option String)
  | .null => .ok none
  | .text s => .ok (some (Path.normal s))
  | .path p => .ok (some p)
  | _ => .error .notPath

end Formulary.Settings.Field
