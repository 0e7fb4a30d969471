import Formulary.Data.Datum

set_option autoImplicit false

namespace Formulary

namespace Display

def truth (b : Bool) : String := if b then "True" else "False"

def commaList (xs : List String) : String := ", ".intercalate xs

def call (name : String) (args : List String) : String := name ++ "(" ++ commaList args ++ ")"

def date (d : Date) : String :=
  call "datetime.date" [toString d.year, toString d.month, toString d.day]

def offset (seconds : Int) : String :=
  if seconds = 0 then "datetime.timezone.utc"
  else
    let days := seconds.fdiv 86400
    let left := seconds.fmod 86400
    let parts := (if days = 0 then [] else ["days=" ++ toString days]) ++
      (if left = 0 then [] else ["seconds=" ++ toString left])
    call "datetime.timezone" [call "datetime.timedelta" parts]

def moment (m : Moment) : String :=
  let seconds := m.clock / Moment.microsPerSecond
  let micros := m.clock % Moment.microsPerSecond
  let fine :=
    if micros ≠ 0 then [seconds % 60, micros] else if seconds % 60 ≠ 0 then [seconds % 60] else []
  let numbers := [m.date.year, m.date.month, m.date.day, seconds / 3600, seconds / 60 % 60] ++ fine
  call "datetime.datetime"
    (numbers.map toString ++ (m.offset.map fun s => "tzinfo=" ++ offset s).toList)

def byte (quote : Char) (b : UInt8) : List Char :=
  let c := Char.ofNat b.toNat
  if c = quote || c = '\\' then ['\\', c]
  else if c = '\n' then ['\\', 'n']
  else if c = '\r' then ['\\', 'r']
  else if c = '\t' then ['\\', 't']
  else if ' ' ≤ c && c ≤ '~' then [c]
  else '\\' :: 'x' :: Text.hexDigits 2 b.toNat

def bytes (bs : List UInt8) : String :=
  let quote := Text.quoteFor (bs.map fun b => Char.ofNat b.toNat)
  String.ofList ('b' :: quote :: bs.flatMap (byte quote) ++ [quote])

def payload : Value → String
  | .number x => NumberStyle.data.text x
  | .string s | .error s => Text.quoted s
  | .boolean b => truth b

def value (v : Value) : String :=
  call "Value" ["type=" ++ Text.quoted v.tag.text, "value=" ++ payload v]

end Display

namespace Scalar

def literal : Scalar → String
  | .null => "None"
  | .boolean b => Display.truth b
  | .integer n => toString n
  | .float x => NumberStyle.data.text x
  | .text s => Text.quoted s
  | .date d => Display.date d
  | .moment m => Display.moment m
  | .bytes bs => Display.bytes bs

def display : Scalar → String
  | .text s => s
  | .date d => d.text
  | .moment m => m.text
  | s => s.literal

end Scalar

mutual

def Datum.literal : Datum → String
  | .scalar s => s.literal
  | .path p => "PosixPath(" ++ Text.quoted p ++ ")"
  | .value v => Display.value v
  | .list items => "[" ++ Display.commaList (Datum.literals items) ++ "]"
  | .pair a b => "(" ++ a.literal ++ ", " ++ b.literal ++ ")"
  | .set [] => "set()"
  | .set items => "\x7b" ++ Display.commaList (items.map Scalar.literal) ++ "\x7d"
  | .map entries => "\x7b" ++ Display.commaList (Datum.entryLiterals entries) ++ "\x7d"

def Datum.literals : List Datum → List String
  | [] => []
  | d :: ds => d.literal :: Datum.literals ds

def Datum.entryLiterals : List (Scalar × Datum) → List String
  | [] => []
  | (key, d) :: rest => (key.literal ++ ": " ++ d.literal) :: Datum.entryLiterals rest

end

def Datum.display : Datum → String
  | .scalar s => s.display
  | .path p => p
  | .value v => v.asText
  | d => d.literal

end Formulary
