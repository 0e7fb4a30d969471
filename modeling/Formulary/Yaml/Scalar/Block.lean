import Formulary.Yaml.Cursor
import Formulary.Yaml.Flaw

set_option autoImplicit false

namespace Formulary.Yaml.Block

inductive Chomping where
  | clip
  | strip
  | keep
deriving DecidableEq

structure Header where
  chomping : Chomping
  indent : Option Nat

def chomping? : Char → Option Chomping
  | '+' => some .keep
  | '-' => some .strip
  | _ => none

def width? (c : Char) : Option Nat :=
  if Text.isAsciiDigit c then some (Text.asciiDigit c) else none

def header (cs : List Char) : Header × List Char :=
  match cs with
  | [] => (⟨.clip, none⟩, cs)
  | c :: rest =>
      match chomping? c, width? c with
      | some chomping, _ =>
          match rest.head?.bind width? with
          | some n => (⟨chomping, some n⟩, rest.tail)
          | none => (⟨chomping, none⟩, rest)
      | none, some n =>
          match rest.head?.bind chomping? with
          | some chomping => (⟨chomping, some n⟩, rest.tail)
          | none => (⟨.clip, some n⟩, rest)
      | none, none => (⟨.clip, none⟩, cs)

def restOfLine (cs : List Char) : Except Flaw (List Char) :=
  let cs := cs.dropWhile (· == ' ')
  let cs := if cs.head? = some '#' then cs.dropWhile fun c => !isBreak c else cs
  if atBreak cs then .ok ((takeBreak? cs).elim cs Prod.snd) else .error .malformed

structure Place where
  breaks : List Char
  column : Nat
  rest : List Char

-- Finds the indentation: that of the longest of the empty lines in front counts, too.
def detect : Nat → Nat → Nat → List Char → Nat × Place
  | 0, widest, column, cs => (widest, ⟨[], column, cs⟩)
  | fuel + 1, widest, column, cs =>
      match cs with
      | ' ' :: rest => detect fuel (max widest (column + 1)) (column + 1) rest
      | _ =>
          match takeBreak? cs with
          | none => (widest, ⟨[], column, cs⟩)
          | some (b, rest) =>
              let (widest, place) := detect fuel widest 0 rest
              (widest, { place with breaks := b :: place.breaks })

def indentation (indent : Nat) : Nat → List Char → Nat × List Char
  | column, ' ' :: cs =>
      if column < indent then indentation indent (column + 1) cs else (column, ' ' :: cs)
  | column, cs => (column, cs)

def emptyLines (indent : Nat) : Nat → List Char → Place
  | 0, cs => ⟨[], 0, cs⟩
  | fuel + 1, cs =>
      let (column, cs) := indentation indent 0 cs
      match takeBreak? cs with
      | none => ⟨[], column, cs⟩
      | some (b, rest) =>
          let place := emptyLines indent fuel rest
          { place with breaks := b :: place.breaks }

structure Reading where
  text : List Char
  last : List Char
  trailing : List Char
  rest : List Char

def joint (folded : Bool) (line break_ : List Char) (next : Place) : List Char :=
  let isText (cs : List Char) : Bool := cs.head?.all fun c => !isSpaceOrTab c
  if folded && break_ == ['\n'] && isText line && isText next.rest then
    if next.breaks = [] then [' '] else []
  else break_

def lines (folded : Bool) (indent : Nat) : Nat → Place → Reading
  | 0, place => ⟨[], [], place.breaks, place.rest⟩
  | fuel + 1, place =>
      if place.column ≠ indent ∨ place.rest = [] then ⟨[], [], place.breaks, place.rest⟩
      else
        let line := place.rest.takeWhile fun c => !isBreak c
        let rest := place.rest.dropWhile fun c => !isBreak c
        let (break_, rest) := match takeBreak? rest with
          | some (b, rest) => ([b], rest)
          | none => ([], rest)
        let next := emptyLines indent (rest.length + 1) rest
        if next.column = indent ∧ next.rest ≠ [] then
          let more := lines folded indent fuel next
          { more with
            text := place.breaks ++ line ++ joint folded line break_ next ++ more.text }
        else ⟨place.breaks ++ line, break_, next.breaks, next.rest⟩

def chomped (chomping : Chomping) (r : Reading) : List Char :=
  match chomping with
  | .strip => r.text
  | .clip => r.text ++ r.last
  | .keep => r.text ++ r.last ++ r.trailing

def read (folded : Bool) (least : Nat) (cs : List Char) :
    Except Flaw (List Char × List Char) := do
  let (header, cs) := header cs
  if header.indent = some 0 ∨ !atSpace cs then throw .malformed
  let cs ← restOfLine cs
  let fuel := cs.length + 1
  let (indent, place) := match header.indent with
    | some n => (least + n - 1, emptyLines (least + n - 1) fuel cs)
    | none =>
        let (widest, place) := detect fuel 0 0 cs
        (max least widest, place)
  let r := lines folded indent fuel place
  return (chomped header.chomping r, r.rest)

end Formulary.Yaml.Block
