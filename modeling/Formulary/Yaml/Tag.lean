import Formulary.Data.Stamp
import Formulary.Text.Split
import Formulary.Yaml.Scalar.Quoted

set_option autoImplicit false

namespace Formulary.Yaml

inductive Tag where
  | null
  | boolean
  | integer
  | float
  | binary
  | timestamp
  | text
  | sequence
  | mapping
  | orderedMap
  | pairs
  | set
  | merge
  | value
  | unknown
deriving Repr, DecidableEq

namespace Tag

def family : String := "tag:yaml.org,2002:"

def named : List (String × Tag) := [
  ("null", .null), ("bool", .boolean), ("int", .integer), ("float", .float),
  ("binary", .binary), ("timestamp", .timestamp), ("str", .text), ("seq", .sequence),
  ("map", .mapping), ("omap", .orderedMap), ("pairs", .pairs), ("set", .set),
  ("merge", .merge), ("value", .value)]

def ofUri (uri : String) : Tag :=
  ((named.find? fun t => family ++ t.1 == uri).map Prod.snd).getD .unknown

def truthWords : List String := ["yes", "no", "true", "false", "on", "off"]

def isSpelling (words : List String) (cs : List Char) : Bool :=
  words.any fun w =>
    let small := w.toList
    let large := small.map Char.toUpper
    cs == small || cs == large || cs == large.take 1 ++ small.drop 1

def unsigned : List Char → List Char
  | '+' :: cs => cs
  | '-' :: cs => cs
  | cs => cs

def isGrouped (isDigit : Char → Bool) (cs : List Char) : Bool :=
  cs.all fun c => isDigit c || c == '_'

def isDecimal (c : Char) : Bool := Text.isAsciiDigit c

def isWhole : List Char → Bool
  | c :: cs => isDecimal c && isGrouped isDecimal cs
  | [] => false

def isSixtieth (part : String) : Bool :=
  match part.toList with
  | [a] => isDecimal a
  | [a, b] => '0' ≤ a && a ≤ '5' && isDecimal b
  | _ => false

def isSexagesimal (isFirst : List Char → Bool) (cs : List Char) : Bool :=
  match Text.split [':'] cs with
  | first :: second :: rest => isFirst first.toList && (second :: rest).all isSixtieth
  | _ => false

def startsPositive (cs : List Char) : Bool := isWhole cs && cs.head? != some '0'

def isInteger (cs : List Char) : Bool :=
  match unsigned cs with
  | ['0'] => true
  | '0' :: 'b' :: ds => ds != [] && isGrouped (fun c => c == '0' || c == '1') ds
  | '0' :: 'x' :: ds => ds != [] && isGrouped Quoted.isHexDigit ds
  | '0' :: ds => isGrouped (fun c => '0' ≤ c && c ≤ '7') ds
  | ds => startsPositive ds || isSexagesimal startsPositive ds

def isExponent : List Char → Bool
  | [] => true
  | [_] | [_, _] => false
  | e :: s :: ds => (e == 'e' || e == 'E') && (s == '+' || s == '-') && ds.all isDecimal

def isFraction (cs : List Char) : Bool :=
  isExponent (cs.dropWhile fun c => isDecimal c || c == '_')

def beforePoint (cs : List Char) : List Char := cs.takeWhile (· != '.')

def isFloat (cs : List Char) : Bool :=
  let magnitude := unsigned cs
  let whole := beforePoint magnitude
  match magnitude.drop whole.length with
  | '.' :: fraction =>
      (isWhole whole && isFraction fraction) ||
        (isSexagesimal isWhole whole && isGrouped isDecimal fraction) ||
        (whole == [] && ["inf", "Inf", "INF"].contains (String.ofList fraction)) ||
        (cs.head? == some '.' &&
          (["nan", "NaN", "NAN"].contains (String.ofList fraction) ||
            (fraction.head?.any isDecimal && isFraction fraction)))
  | _ => false

def isNull (cs : List Char) : Bool := cs == [] || cs == ['~'] || isSpelling ["null"] cs

def withoutBreak (cs : List Char) : List Char :=
  if cs.getLast? = some '\n' ∧ cs ≠ ['\n'] then cs.dropLast else cs

def implied (text : String) : Tag :=
  let cs := withoutBreak text.toList
  if isSpelling truthWords cs then .boolean
  else if isFloat cs then .float
  else if isInteger cs then .integer
  else if cs = ['<', '<'] then .merge
  else if isNull cs then .null
  else if (Stamp.read? cs).any Stamp.isFull then .timestamp
  else if cs = ['='] then .value
  else .text

end Tag

end Formulary.Yaml
