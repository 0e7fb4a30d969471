import Formulary.Data.Datum
import Formulary.Decimal.Free
import Formulary.Issue

set_option autoImplicit false

namespace Formulary

inductive Payload where
  | float (x : Float)
  | text (s : String)
  | boolean (b : Bool)

namespace Payload

def ofDatum? : Datum → Option Payload
  | .float x => some (.float x)
  | .integer n => (Decimal.floatOfInt? n).map .float
  | .text s => some (.text s)
  | .boolean b => some (.boolean b)
  | _ => none

def kind : Payload → String
  | .float _ => "float"
  | .text _ => "str"
  | .boolean _ => "bool"

def issues : List Issue := [
  ⟨["value", "float"], .notNumber⟩, ⟨["value", "str"], .notText⟩, ⟨["value", "bool"], .notBoolean⟩]

def ofDatum (d : Datum) : Except (List Issue) Payload :=
  match ofDatum? d with
  | some p => .ok p
  | none => .error issues

end Payload

def TypeTag.ofDatum (d : Datum) : Except (List Issue) TypeTag :=
  match d with
  | .text s =>
      match TypeTag.ofText? s with
      | some t => .ok t
      | none => .error [⟨["type"], .notListed (TypeTag.every.map TypeTag.text)⟩]
  | _ => .error [⟨["type"], .notListed (TypeTag.every.map TypeTag.text)⟩]

structure Slot where
  tag : TypeTag
  payload : Payload

namespace Slot

def ofValue : Value → Slot
  | .number x => ⟨.number, .float x⟩
  | .string s => ⟨.string, .text s⟩
  | .boolean b => ⟨.boolean, .boolean b⟩
  | .error s => ⟨.error, .text s⟩

def payloadKind : TypeTag → String
  | .number => "float"
  | .boolean => "bool"
  | _ => "str"

def isErrorText (s : String) : Bool := s.toList.head? == some '#' && s == Text.upper s

def mismatch (slot : Slot) : String :=
  slot.tag.text ++ " value requires a " ++ payloadKind slot.tag ++ " payload, got " ++
    slot.payload.kind

def value (slot : Slot) : Except String Value :=
  match slot.tag, slot.payload with
  | .any, _ | .all, _ =>
      .error (Text.quoted slot.tag.text ++ " is a signature constraint, not a value")
  | .number, .float x => .ok (.number x)
  | .string, .text s => .ok (.string s)
  | .boolean, .boolean b => .ok (.boolean b)
  | .error, .text s =>
      if isErrorText s then .ok (.error s)
      else .error ("Error payload must be '#' + CODE, got " ++ Text.quoted s)
  | _, _ => .error slot.mismatch

def check (slot : Slot) : List Issue :=
  match slot.value with
  | .ok _ => []
  | .error reason => [⟨[], .rejected reason⟩]

-- Every part is looked at before anything is refused, unknown parts last.
def make (type payload : Datum) (others : List String) : Except (List Issue) Value :=
  let unknown := others.map fun name => ⟨[name], .unknownField⟩
  match TypeTag.ofDatum type, Payload.ofDatum payload with
  | .ok t, .ok p =>
      if unknown ≠ [] then .error unknown
      else
        match Slot.value ⟨t, p⟩ with
        | .ok v => .ok v
        | .error reason => .error [⟨[], .rejected reason⟩]
  | .error a, .ok _ => .error (a ++ unknown)
  | .ok _, .error b => .error (b ++ unknown)
  | .error a, .error b => .error (a ++ b ++ unknown)

inductive Refusal where
  | issues (issues : List Issue)
  -- The name belongs to something that is worked out and cannot be set.
  | readOnly

-- A new part of the right kind is stored before tag and payload are compared, and stays.
def assign (slot : Slot) (field : String) (d : Datum) : Slot × Option Refusal :=
  let store (slot : Slot) : Slot × Option Refusal :=
    (slot, if slot.check = [] then none else some (.issues slot.check))
  if field = "type" then
    match TypeTag.ofDatum d with
    | .ok t => store { slot with tag := t }
    | .error issues => (slot, some (.issues issues))
  else if field = "value" then
    match Payload.ofDatum d with
    | .ok p => store { slot with payload := p }
    | .error issues => (slot, some (.issues issues))
  else if field = "is_error" then (slot, some .readOnly)
  else if field.toList.head? = some '_' then (slot, none)
  else (slot, some (.issues [⟨[field], .noAttribute field⟩]))

end Slot

namespace Value

inductive Unfit where
  | issues (issues : List Issue)
  | unreadableNumber
  | notNumeric
  | tooLarge
  | notText

def numberOf : Datum → Except Unfit Value
  | .float x => .ok (.number x)
  | .boolean b => .ok (.number (if b then 1.0 else 0.0))
  | .integer n =>
      match Decimal.floatOfInt? n with
      | some x => .ok (.number x)
      | none => .error .tooLarge
  | .text s =>
      match Numeral.freeFloat? s with
      | some x => .ok (.number x)
      | none => .error .unreadableNumber
  | _ => .error .notNumeric

def stringOf (d : Datum) : Except Unfit Value :=
  (Slot.make (.text "string") d []).mapError .issues

def booleanOf (d : Datum) : Except Unfit Value :=
  (Slot.make (.text "boolean") d []).mapError .issues

def errorFrom : Datum → Except Unfit Value
  | .text s => .ok (errorOf s)
  | _ => .error .notText

end Value

end Formulary
