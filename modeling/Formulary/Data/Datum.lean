import Formulary.Data.Moment
import Formulary.Fault
import Formulary.Value

set_option autoImplicit false

namespace Formulary

inductive Scalar where
  | null
  | boolean (b : Bool)
  | integer (n : Int)
  | float (x : Float)
  | text (s : String)
  | date (d : Date)
  | moment (m : Moment)
  | bytes (bs : List UInt8)

inductive Datum where
  | scalar (s : Scalar)
  | path (p : String)
  | value (v : Value)
  | list (items : List Datum)
  | pair (first second : Datum)
  | set (items : List Scalar)
  | map (entries : List (Scalar × Datum))

namespace Datum

@[match_pattern] abbrev null : Datum := .scalar .null
@[match_pattern] abbrev boolean (b : Bool) : Datum := .scalar (.boolean b)
@[match_pattern] abbrev integer (n : Int) : Datum := .scalar (.integer n)
@[match_pattern] abbrev float (x : Float) : Datum := .scalar (.float x)
@[match_pattern] abbrev text (s : String) : Datum := .scalar (.text s)

def kind : Datum → String
  | .scalar .null => "NoneType"
  | .scalar (.boolean _) => "bool"
  | .scalar (.integer _) => "int"
  | .scalar (.float _) => "float"
  | .scalar (.text _) => "str"
  | .scalar (.date _) => "date"
  | .scalar (.moment _) => "datetime"
  | .scalar (.bytes _) => "bytes"
  | .path _ => "PosixPath"
  | .value _ => "Value"
  | .list _ => "list"
  | .pair _ _ => "tuple"
  | .set _ => "set"
  | .map _ => "dict"

def toValue : Datum → Except Fault Value
  | .value v => .ok v
  | .boolean b => .ok (.boolean b)
  | .integer n =>
      match Decimal.floatOfInt? n with
      | some x => .ok (.number x)
      | none => .error .tooLarge
  | .float x => .ok (.number x)
  | .text s => .ok (.string s)
  | d => .error (.unconvertible d.kind)

def isNull : Datum → Bool
  | .null => true
  | _ => false

end Datum

end Formulary
