import Formulary.Text.Span

set_option autoImplicit false

namespace Formulary.Yaml

def isBreak (c : Char) : Bool :=
  c == '\n' || c == '\r' || c == '\u0085' || c == '\u2028' || c == '\u2029'

def isSpaceOrTab (c : Char) : Bool := c == ' ' || c == '\t'

def atBreak (cs : List Char) : Bool := cs.head?.all isBreak

def atSpace (cs : List Char) : Bool := cs.head?.all fun c => isBreak c || c == ' '

def atGap (cs : List Char) : Bool := cs.head?.all fun c => isBreak c || isSpaceOrTab c

def isWordChar (c : Char) : Bool :=
  Text.isAsciiDigit c || Text.isAsciiLetter c || c == '-' || c == '_'

def printableSpans : List (Nat × Nat) := [
  (0x9, 0xA), (0xD, 0xD), (0x20, 0x7E), (0x85, 0x85), (0xA0, 0xD7FF), (0xE000, 0xFFFD),
  (0x10000, 0x10FFFF)]

def isAllowed (c : Char) : Bool := Text.within printableSpans c

-- The break at the front, if there is one. All that end a line are one to a reader, but the
-- separators of lines and paragraphs stay themselves.
def takeBreak? : List Char → Option (Char × List Char)
  | '\r' :: '\n' :: cs => some ('\n', cs)
  | c :: cs =>
      if c == '\u2028' || c == '\u2029' then some (c, cs)
      else if isBreak c then some ('\n', cs)
      else none
  | [] => none

def atSeparator : List Char → Bool
  | '-' :: '-' :: '-' :: cs => atGap cs
  | '.' :: '.' :: '.' :: cs => atGap cs
  | _ => false

structure Cursor where
  rest : List Char
  index : Nat := 0
  line : Nat := 0
  column : Nat := 0

namespace Cursor

def byteOrderMark : Char := '\uFEFF'

def step (at_ : Cursor) : Cursor :=
  match at_.rest with
  | [] => at_
  | c :: cs =>
      let moved := { at_ with rest := cs, index := at_.index + 1 }
      if isBreak c && !(c == '\r' && cs.head? == some '\n') then
        { moved with line := at_.line + 1, column := 0 }
      else if c == byteOrderMark then moved
      else { moved with column := at_.column + 1 }

def skip : Nat → Cursor → Cursor
  | 0, at_ => at_
  | n + 1, at_ => skip n at_.step

def goTo (at_ : Cursor) (rest : List Char) : Cursor :=
  skip (at_.rest.length - rest.length) at_

def ofText (text : List Char) : Cursor :=
  match text with
  | c :: _ => if c == byteOrderMark then step ⟨text, 0, 0, 0⟩ else ⟨text, 0, 0, 0⟩
  | [] => ⟨[], 0, 0, 0⟩

end Cursor

end Formulary.Yaml
