import Formulary.Text.Blank
import Formulary.Text.Split
import Formulary.Text.Width

set_option autoImplicit false

namespace Formulary.Screen

open Text (width)

inductive Overflow where
  | fold
  | ellipsis
deriving DecidableEq

-- Words with the blanks behind them; the first one has those in front, too. Blanks alone are no
-- word.
def wordsFrom : List Char → Bool → Bool → List Char → List (List Char)
  | word, hasBody, _, [] => if hasBody then [word.reverse] else []
  | word, hasBody, isTrailing, c :: cs =>
      if Text.isBlank c then wordsFrom (c :: word) hasBody hasBody cs
      else if isTrailing then word.reverse :: wordsFrom [c] true false cs
      else wordsFrom (c :: word) true false cs

def words (cs : List Char) : List (List Char) := wordsFrom [] false false cs

def trimEnd (cs : List Char) : List Char := (cs.reverse.dropWhile Text.isBlank).reverse

-- Lines under construction: those that are full, last one first, the current one, and the room
-- that it takes up.
structure Filling where
  full : List (List Char) := []
  line : List Char := []
  used : Nat := 0

namespace Filling

def breakLine (f : Filling) : Filling := { full := f.line :: f.full }

def add (f : Filling) (cs : List Char) (used : Nat) : Filling :=
  { f with line := f.line ++ cs, used := used }

def isAtStart (f : Filling) : Bool := f.full.isEmpty && f.line.isEmpty

def addPieces (f : Filling) : List (List Char) → Filling
  | [] => f
  | piece :: rest =>
      let f := if f.isAtStart then f else f.breakLine
      addPieces (f.add piece (width piece)) rest

def addWord (room : Nat) (overflow : Overflow) (f : Filling) (word : List Char) : Filling :=
  let needed := width (trimEnd word)
  if f.used + needed ≤ room then f.add word (f.used + width word)
  else if room < needed then
    match overflow with
    | .fold => f.addPieces (Text.chop room word)
    | .ellipsis => (if f.isAtStart then f else f.breakLine).add word (width word)
  else if f.used ≠ 0 ∧ !f.isAtStart then f.breakLine.add word (width word)
  else f.add word f.used

def lines (f : Filling) : List (List Char) := (f.line :: f.full).reverse

end Filling

def divide (room : Nat) (overflow : Overflow) (line : List Char) : List (List Char) :=
  match words line with
  | [] => [line]
  | ws => (ws.foldl (Filling.addWord room overflow) {}).lines

def cropEnd (room : Nat) (line : List Char) : List Char :=
  let blanks := (line.reverse.takeWhile Text.isBlank).length
  line.take (line.length - min blanks (line.length - room))

def truncate (room : Nat) (overflow : Overflow) (line : List Char) : List Char :=
  if width line ≤ room then line
  else
    match overflow with
    | .fold => Text.fit room line
    | .ellipsis => Text.fit (room - 1) line ++ ['…']

inductive Alignment where
  | none
  | left
  | centre

def align (room : Nat) (overflow : Overflow) (alignment : Alignment) (line : List Char) :
    List Char :=
  match alignment with
  | .none => truncate room overflow line
  | .left => let cut := truncate room overflow line; cut ++ Text.spaces (room - width cut)
  | .centre =>
      let cut := truncate room overflow (trimEnd line)
      let padded := Text.spaces ((room - width cut) / 2) ++ cut
      padded ++ Text.spaces (room - width padded)

def tabStop : Nat := 8

def expandTabs : Nat → List Char → List Char → List Char
  | _, part, [] => part.reverse
  | column, part, c :: cs =>
      if c = '\t' then
        let part := ' ' :: part
        let reached := column + width part.reverse
        let more := (tabStop - reached % tabStop) % tabStop
        part.reverse ++ Text.spaces more ++ expandTabs (reached + more) [] cs
      else expandTabs column (c :: part) cs

structure Layout where
  room : Nat
  overflow : Overflow := .fold
  alignment : Alignment := .none
  isWrapped : Bool := true

def wrap (layout : Layout) (cs : List Char) : List (List Char) :=
  (Text.split ['\n'] cs).flatMap fun line =>
    let line := expandTabs 0 [] line.toList
    let parts := if layout.isWrapped then divide layout.room layout.overflow line else [line]
    parts.map fun part =>
      align layout.room layout.overflow layout.alignment (cropEnd layout.room part)

end Formulary.Screen
