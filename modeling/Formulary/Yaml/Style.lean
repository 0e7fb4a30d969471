import Formulary.Yaml.Cursor
import Formulary.Yaml.Pen
import Formulary.Yaml.Tag

set_option autoImplicit false

namespace Formulary.Yaml

inductive Style where
  | plain
  | single
  | double
deriving Repr, DecidableEq

namespace Style

def isSpecial (c : Char) : Bool := !(c == '\n' || (' ' ≤ c && c ≤ '~'))

def leadingMarks : List Char := "#,[]{}&*!|>'\"%@\x60".toList

def startsAsMark (cs : List Char) : Bool :=
  match cs with
  | [] => false
  | c :: rest =>
      leadingMarks.contains c || ((c == '?' || c == ':' || c == '-') && atGap rest) ||
        "---".toList.isPrefixOf cs || "...".toList.isPrefixOf cs

def holdsMark : List Char → Bool
  | [] => false
  | [_] => false
  | a :: b :: rest =>
      (b == ':' && atGap rest) || (b == '#' && atGap [a]) || holdsMark (b :: rest)

def hasNeighbours (first second : Char → Bool) : List Char → Bool
  | a :: b :: rest => (first a && second b) || hasNeighbours first second (b :: rest)
  | _ => false

def isSpace (c : Char) : Bool := c == ' '

def isMultiline (cs : List Char) : Bool := cs.any fun c => isBreak c && c != '\r'

def isPadded (cs : List Char) : Bool :=
  cs.head?.any (fun c => isSpace c || c == '\n') || cs.getLast?.any (fun c => isSpace c || c == '\n')

def allowsPlain (cs : List Char) : Bool :=
  !(isPadded cs || isMultiline cs || cs.any isSpecial || startsAsMark cs || holdsMark cs)

def allowsSingle (cs : List Char) : Bool :=
  !(cs.any isSpecial || hasNeighbours (· == '\n') isSpace cs ||
    hasNeighbours isSpace (· == '\n') cs)

def ofText (s : String) : Style :=
  let cs := s.toList
  if Tag.implied s == .text && allowsPlain cs then .plain
  else if allowsSingle cs then .single
  else .double

def isSimpleKey (s : String) : Bool :=
  let cs := s.toList
  cs != [] && cs.length + "!!str".length < 128 && !isMultiline cs

end Style

namespace Pen

-- `splits` tells whether long lines may be broken; what goes on below is indented.

def plainFrom (splits : Bool) (indent : Nat) : List Char → Pen → Pen
  | [], p => p
  | ' ' :: cs, p =>
      let isSingle := !cs.head?.any Style.isSpace && !p.written.head?.any Style.isSpace
      if splits && isSingle && width < p.column then
        plainFrom splits indent cs { p.indentTo indent with isSpaced := false, isFresh := false }
      else plainFrom splits indent cs (p.write [' '])
  | c :: cs, p => plainFrom splits indent cs (p.write [c])

def plain (splits : Bool) (indent : Nat) (cs : List Char) (p : Pen) : Pen :=
  if cs = [] then p
  else
    let p := if p.isSpaced then p else p.write [' ']
    plainFrom splits indent cs { p with isSpaced := false, isFresh := false }

def newLines : Nat → Pen → Pen
  | 0, p => p
  | n + 1, p => newLines n p.newLine

-- `before` is the character in front. A first break is written twice, since one alone would be
-- read as a space.
def singleFrom (splits : Bool) (indent : Nat) : Option Char → List Char → Pen → Pen
  | _, [], p => p
  | before, c :: cs, p =>
      let next :=
        if c = '\n' then
          let p := if before = some '\n' then p.newLine else newLines 2 p
          if cs.head? = some '\n' then p else p.indentTo indent
        else if c = ' ' then
          let isSingle := !cs.head?.any Style.isSpace && !before.any Style.isSpace
          if splits && isSingle && width < p.column && before.isSome && cs != [] then
            p.indentTo indent
          else p.write [' ']
        else if c = '\'' then p.write ['\'', '\'']
        else p.write [c]
      singleFrom splits indent (some c) cs next

def single (splits : Bool) (indent : Nat) (cs : List Char) (p : Pen) : Pen :=
  (singleFrom splits indent none cs (p.mark ['\''] true false false)).mark ['\''] false false false

def namedEscape? : Char → Option Char
  | '\x00' => some '0'
  | '\x07' => some 'a'
  | '\x08' => some 'b'
  | '\t' => some 't'
  | '\n' => some 'n'
  | '\x0b' => some 'v'
  | '\x0c' => some 'f'
  | '\r' => some 'r'
  | '\x1b' => some 'e'
  | '"' => some '"'
  | '\\' => some '\\'
  | '\u0085' => some 'N'
  | '\u00a0' => some '_'
  | '\u2028' => some 'L'
  | '\u2029' => some 'P'
  | _ => none

def upperHex (width n : Nat) : List Char :=
  let digits := (Nat.toDigits 16 n).map Char.toUpper
  List.replicate (width - digits.length) '0' ++ digits

def escape (c : Char) : List Char :=
  match namedEscape? c with
  | some e => ['\\', e]
  | none =>
      if c.toNat ≤ 0xFF then '\\' :: 'x' :: upperHex 2 c.toNat
      else if c.toNat ≤ 0xFFFF then '\\' :: 'u' :: upperHex 4 c.toNat
      else '\\' :: 'U' :: upperHex 8 c.toNat

def isEscaped (c : Char) : Bool := c == '"' || c == '\\' || !(' ' ≤ c && c ≤ '~')

def breakDouble (indent : Nat) (next : Option Char) (p : Pen) : Pen :=
  let p := { (p.write ['\\']).indentTo indent with isSpaced := false, isFresh := false }
  if next = some ' ' then p.write ['\\'] else p

-- `run` holds what is still to be written, last character first.
def doubleFrom (splits : Bool) (indent : Nat) : Bool → List Char → List Char → Pen → Pen
  | _, run, [], p => p.write run.reverse
  | isFirst, run, c :: cs, p =>
      let mayBreak := splits && !isFirst && cs != []
      if isEscaped c then
        let p := (p.write run.reverse).write (escape c)
        let p := if mayBreak && width < p.column - 1 then breakDouble indent cs.head? p else p
        doubleFrom splits indent false [] cs p
      else if mayBreak && (c == ' ' || run == []) && width < p.column + run.length then
        doubleFrom splits indent false [c] cs
          (breakDouble indent (some c) (p.write run.reverse))
      else doubleFrom splits indent false (c :: run) cs p

def double (splits : Bool) (indent : Nat) (cs : List Char) (p : Pen) : Pen :=
  (doubleFrom splits indent true [] cs (p.mark ['"'] true false false)).mark ['"'] false false false

def styled (style : Style) (splits : Bool) (indent : Nat) (cs : List Char) (p : Pen) : Pen :=
  match style with
  | .plain => p.plain splits indent cs
  | .single => p.single splits indent cs
  | .double => p.double splits indent cs

end Pen

end Formulary.Yaml
