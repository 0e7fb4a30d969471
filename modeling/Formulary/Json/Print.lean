import Formulary.Data.Datum

set_option autoImplicit false

namespace Formulary.Json

def floatStyle : NumberStyle :=
  { NumberStyle.data with notANumber := "NaN", infinity := "Infinity" }

def unit (n : Nat) : List Char := '\\' :: 'u' :: Text.hexDigits 4 n

def codeUnits (n : Nat) : List Char :=
  if n < 0x10000 then unit n
  else unit (0xD800 + (n - 0x10000) / 0x400) ++ unit (0xDC00 + (n - 0x10000) % 0x400)

def escape (c : Char) : List Char :=
  match c with
  | '"' => ['\\', '"']
  | '\\' => ['\\', '\\']
  | '\n' => ['\\', 'n']
  | '\r' => ['\\', 'r']
  | '\t' => ['\\', 't']
  | '\x0c' => ['\\', 'f']
  | '\x08' => ['\\', 'b']
  | c => if ' ' ≤ c ∧ c ≤ '~' then [c] else codeUnits c.toNat

def quoted (s : String) : String := String.ofList ('"' :: s.toList.flatMap escape ++ ['"'])

def scalarText? : Scalar → Option String
  | .null => some "null"
  | .boolean b => some (if b then "true" else "false")
  | .integer n => some (toString n)
  | .float x => some (floatStyle.text x)
  | .text s => some (quoted s)
  | .date _ | .moment _ | .bytes _ => none

def keyText? : Scalar → Option String
  | .text s => some (quoted s)
  | s => (scalarText? s).map quoted

def lineStart (depth : Nat) : String := "\n" ++ String.ofList (List.replicate (2 * depth) ' ')

def enclose (depth : Nat) (open_ close : String) (parts : List String) : String :=
  open_ ++ lineStart (depth + 1) ++ ("," ++ lineStart (depth + 1)).intercalate parts ++
    lineStart depth ++ close

mutual

def printAt (depth : Nat) : Datum → Option String
  | .scalar s => scalarText? s
  | .list [] => some "[]"
  | .map [] => some "\x7b\x7d"
  | .list items => do return enclose depth "[" "]" (← printItems (depth + 1) items)
  | .pair a b => do return enclose depth "[" "]" [← printAt (depth + 1) a, ← printAt (depth + 1) b]
  | .map entries => do return enclose depth "\x7b" "\x7d" (← printEntries (depth + 1) entries)
  | .path _ | .value _ | .set _ => none

def printItems (depth : Nat) : List Datum → Option (List String)
  | [] => some []
  | d :: ds => do return (← printAt depth d) :: (← printItems depth ds)

def printEntries (depth : Nat) : List (Scalar × Datum) → Option (List String)
  | [] => some []
  | (key, d) :: rest => do
      return ((← keyText? key) ++ ": " ++ (← printAt depth d)) :: (← printEntries depth rest)

end

def print? (d : Datum) : Option String := printAt 0 d

end Formulary.Json
