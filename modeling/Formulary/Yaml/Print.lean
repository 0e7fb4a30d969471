import Formulary.Data.Datum
import Formulary.Yaml.Style

set_option autoImplicit false

namespace Formulary.Yaml

def floatStyle : NumberStyle :=
  { NumberStyle.data with leadEnd := ".0", notANumber := ".nan", infinity := ".inf" }

def scalarText? : Scalar → Option (String × Style)
  | .null => some ("null", .plain)
  | .boolean b => some (if b then "true" else "false", .plain)
  | .integer n => some (toString n, .plain)
  | .float x => some (floatStyle.text x, .plain)
  | .text s => some (s, Style.ofText s)
  | .date _ | .moment _ | .bytes _ => none

def deeper (outer : Option Nat) : Nat := (outer.map (· + 2)).getD 0

def scalarIndent (outer : Option Nat) : Nat := (outer.map (· + 2)).getD 2

def printScalar (outer : Option Nat) (splits : Bool) (s : Scalar) (p : Pen) : Option Pen :=
  (scalarText? s).map fun t => p.styled t.2 splits (scalarIndent outer) t.1.toList

def isSimpleKey : Scalar → Bool
  | .text s => Style.isSimpleKey s
  | _ => true

def printKey (column : Nat) (key : Scalar) (p : Pen) : Option Pen :=
  let p := p.indentTo column
  if isSimpleKey key then
    (printScalar (some column) false key p).map (·.mark [':'] false false false)
  else
    (printScalar (some column) true key (p.mark ['?'] true false true)).map fun p =>
      (p.indentTo column).mark [':'] true false true

mutual

-- Empty collections are written in brackets. A sequence right behind its key is not indented.
def printNode (outer : Option Nat) (isValue : Bool) : Datum → Pen → Option Pen
  | .scalar s, p => printScalar outer true s p
  | .list [], p => some ((p.mark ['['] true true false).mark [']'] false false false)
  | .map [], p => some ((p.mark ['\x7b'] true true false).mark ['\x7d'] false false false)
  | .list items, p =>
      let column := if isValue && !p.isFresh then outer.getD 0 else deeper outer
      printItems column items p
  | .map entries, p => printEntries (deeper outer) entries p
  | .path _, _ | .value _, _ | .pair _ _, _ | .set _, _ => none

def printItems (column : Nat) : List Datum → Pen → Option Pen
  | [], p => some p
  | d :: ds, p => do
      let p ← printNode (some column) false d ((p.indentTo column).mark ['-'] true false true)
      printItems column ds p

def printEntries (column : Nat) : List (Scalar × Datum) → Pen → Option Pen
  | [], p => some p
  | (key, d) :: rest, p => do
      let p ← printKey column key p
      let p ← printNode (some column) true d p
      printEntries column rest p

end

def isOpenEnded : Datum → Bool
  | .scalar s => (scalarText? s).any (·.2 == .plain)
  | _ => false

def print? (d : Datum) : Option String := do
  let p ← printNode none false d {}
  let p := p.indentTo 0
  let p := if isOpenEnded d then (p.mark "...".toList true false false).indentTo 0 else p
  return p.text

end Formulary.Yaml
