import Formulary.Yaml.Scalar.Block
import Formulary.Yaml.Scalar.Plain
import Formulary.Yaml.Token

set_option autoImplicit false

namespace Formulary.Yaml

inductive Opening where
  | nothing
  | key
  | mappingAndKey
deriving DecidableEq

structure Candidate where
  token : Nat
  -- It has to be one.
  required : Bool
  index : Nat
  line : Nat
  column : Nat

structure Stream where
  tokens : List Token
  flaw : Option Flaw
deriving Repr, DecidableEq

structure Layout where
  cursor : Cursor
  tokens : Array (Opening × Token) := #[]
  flow : Nat := 0
  -- The columns of the open blocks, innermost first.
  columns : List Nat := []
  keyAllowed : Bool := true
  -- At most one for each number of open brackets.
  candidates : List (Nat × Candidate) := []

namespace Layout

def longestKey : Nat := 1024

def rest (l : Layout) : List Char := l.cursor.rest

def inFlow (l : Layout) : Bool := l.flow != 0

def push (l : Layout) (t : Token) : Layout := { l with tokens := l.tokens.push (.nothing, t) }

def goTo (l : Layout) (rest : List Char) : Layout := { l with cursor := l.cursor.goTo rest }

def isStale (l : Layout) (c : Candidate) : Bool :=
  c.line != l.cursor.line || c.index + longestKey < l.cursor.index

def dropStale (l : Layout) : Except Flaw Layout :=
  if l.candidates.any fun c => l.isStale c.2 && c.2.required then .error .malformed
  else .ok { l with candidates := l.candidates.filter fun c => !l.isStale c.2 }

def held (l : Layout) : Nat :=
  l.candidates.foldl (fun n c => min n c.2.token) l.tokens.size

def candidate? (l : Layout) : Option Candidate := l.candidates.lookup l.flow

def withoutCandidate (l : Layout) : Layout :=
  { l with candidates := l.candidates.filter fun c => c.1 != l.flow }

def forget (l : Layout) : Except Flaw Layout :=
  if l.candidate?.any (·.required) then .error .malformed else .ok l.withoutCandidate

def remember (l : Layout) : Except Flaw Layout :=
  if l.keyAllowed then do
    let required := !l.inFlow && l.columns.head? == some l.cursor.column
    let here : Candidate :=
      ⟨l.tokens.size, required, l.cursor.index, l.cursor.line, l.cursor.column⟩
    let l ← l.forget
    return { l with candidates := (l.flow, here) :: l.candidates }
  else .ok l

def closeWhile (l : Layout) (isDeep : Nat → Bool) : Layout :=
  let closed := l.columns.takeWhile isDeep
  { l with
    columns := l.columns.dropWhile isDeep
    tokens := l.tokens ++ Array.replicate closed.length (.nothing, .blockEnd) }

def closeTo (l : Layout) (column : Nat) : Layout :=
  if l.inFlow then l else l.closeWhile (column < ·)

def closeAll (l : Layout) : Layout := if l.inFlow then l else l.closeWhile fun _ => true

def isDeeper (l : Layout) (column : Nat) : Bool := l.columns.head?.all (· < column)

def openBlock (l : Layout) (t : Token) : Layout :=
  if l.isDeeper l.cursor.column then
    { l with columns := l.cursor.column :: l.columns }.push t
  else l

def skipBlanks : Nat → Layout → Layout
  | 0, l => l
  | fuel + 1, l =>
      let cs := l.rest.dropWhile (· == ' ')
      let cs := if cs.head? = some '#' then cs.dropWhile fun c => !isBreak c else cs
      match takeBreak? cs with
      | none => l.goTo cs
      | some (_, cs) =>
          skipBlanks fuel { l.goTo cs with keyAllowed := l.keyAllowed || !l.inFlow }

def single (l : Layout) (t : Token) : Layout := (l.push t).goTo l.rest.tail

def separator (l : Layout) (t : Token) : Except Flaw Layout := do
  let l ← l.closeAll.forget
  return ({ l with keyAllowed := false }.push t).goTo (l.rest.drop 3)

def directive (l : Layout) : Except Flaw Layout := do
  let l ← l.closeAll.forget
  let (d, rest) ← Token.readDirective l.rest
  return ({ l with keyAllowed := false }.push (.directive d)).goTo rest

def flowStart (l : Layout) (t : Token) : Except Flaw Layout := do
  let l ← l.remember
  return { l with flow := l.flow + 1, keyAllowed := true }.single t

def flowEnd (l : Layout) (t : Token) : Except Flaw Layout := do
  let l ← l.forget
  if l.flow = 0 then throw .malformed
  return { l with flow := l.flow - 1, keyAllowed := false }.single t

def comma (l : Layout) : Except Flaw Layout := do
  let l ← l.forget
  return { l with keyAllowed := true }.single .comma

def openAt (l : Layout) (t : Token) : Except Flaw Layout :=
  if l.inFlow then .ok l else if l.keyAllowed then .ok (l.openBlock t) else .error .malformed

def dash (l : Layout) : Except Flaw Layout := do
  let l ← l.openAt .sequenceStart
  let l ← l.forget
  return { l with keyAllowed := true }.single .dash

def key (l : Layout) : Except Flaw Layout := do
  let l ← l.openAt .mappingStart
  let l ← l.forget
  return { l with keyAllowed := !l.inFlow }.single .key

def keyed (l : Layout) (c : Candidate) : Layout :=
  let opensBlock := !l.inFlow && l.isDeeper c.column
  let opening : Opening := if opensBlock then .mappingAndKey else .key
  { l.withoutCandidate with
    tokens := l.tokens.modify c.token fun t => (opening, t.2)
    columns := if opensBlock then c.column :: l.columns else l.columns
    keyAllowed := false }

def value (l : Layout) : Except Flaw Layout := do
  match l.candidate? with
  | some c => return (l.keyed c).single .value
  | none =>
      let l ← l.openAt .mappingStart
      return { l with keyAllowed := !l.inFlow }.single .value

def keyable {α : Type} (l : Layout) (piece : List Char → Except Flaw (α × List Char))
    (token : α → Token) : Except Flaw Layout := do
  let l ← l.remember
  let (x, rest) ← piece l.rest
  return ({ l with keyAllowed := false }.push (token x)).goTo rest

def scalar (isPlain : Bool) (text : List Char) : Token := .scalar (String.ofList text) isPlain

def leastIndent (l : Layout) : Nat := (l.columns.head?.map (· + 1)).getD 0

def block (l : Layout) (folded : Bool) : Except Flaw Layout := do
  let l ← l.forget
  let (text, rest) ← Block.read folded (max 1 l.leastIndent) l.rest.tail
  return ({ l with keyAllowed := true }.push (scalar false text)).goTo rest

def plain (l : Layout) : Except Flaw Layout := do
  let l ← l.remember
  let r := Plain.read l.inFlow l.leastIndent l.rest
  return ({ l with keyAllowed := r.broken }.push (scalar true r.text)).goTo r.rest

def unplainChars : List Char := "-?:,[]{}#&*!|>'\"%@\x60".toList

def startsPlain (l : Layout) (c : Char) (cs : List Char) : Bool :=
  !(isBreak c || isSpaceOrTab c || unplainChars.contains c) ||
    (!atGap cs && (c == '-' || (!l.inFlow && (c == '?' || c == ':'))))

def token (l : Layout) (c : Char) (cs : List Char) : Except Flaw Layout :=
  let atStart := l.cursor.column == 0
  let marks := l.inFlow || atGap cs
  if c = '%' ∧ atStart then l.directive
  else if atStart ∧ atSeparator (c :: cs) then
    l.separator (if c = '-' then .documentStart else .documentEnd)
  else if c = '[' then l.flowStart .leftBracket
  else if c = '{' then l.flowStart .leftBrace
  else if c = ']' then l.flowEnd .rightBracket
  else if c = '}' then l.flowEnd .rightBrace
  else if c = ',' then l.comma
  else if c = '-' ∧ atGap cs then l.dash
  else if c = '?' ∧ marks then l.key
  else if c = ':' ∧ marks then l.value
  else if c = '*' then l.keyable (fun cs => Token.name cs.tail) .alias_
  else if c = '&' then l.keyable (fun cs => Token.name cs.tail) .anchor
  else if c = '!' then l.keyable Token.tagName .tag
  else if c = '|' ∧ !l.inFlow then l.block false
  else if c = '>' ∧ !l.inFlow then l.block true
  else if c = '\'' ∨ c = '"' then l.keyable (fun cs => Quoted.read c cs.tail) (scalar false)
  else if l.startsPlain c cs then l.plain
  else .error .malformed

def next (l : Layout) : Except Flaw (Layout × Bool) := do
  let l ← (l.skipBlanks (l.rest.length + 1)).dropStale
  let l := l.closeTo l.cursor.column
  match l.rest with
  | [] => return (← l.closeAll.forget, false)
  | c :: cs => return (← l.token c cs, true)

def opened : Opening × Token → List Token
  | (.nothing, t) => [t]
  | (.key, t) => [.key, t]
  | (.mappingAndKey, t) => [.mappingStart, .key, t]

def stream (l : Layout) (count : Nat) (flaw : Option Flaw) : Stream :=
  ⟨(l.tokens.toList.take count).flatMap opened, flaw⟩

-- Every token takes a character at least.
def run : Nat → Layout → Stream
  | 0, l => l.stream l.tokens.size none
  | fuel + 1, l =>
      match l.dropStale with
      | .error flaw => l.stream l.held (some flaw)
      | .ok l =>
          match l.next with
          | .error flaw => l.stream l.held (some flaw)
          | .ok (l, true) => run fuel l
          | .ok (l, false) => l.stream l.tokens.size none

end Layout

namespace Stream

def ofText (text : List Char) : Stream :=
  if text.all isAllowed then
    Layout.run (text.length + 1) { cursor := Cursor.ofText text }
  else ⟨[], some .malformed⟩

end Stream

end Formulary.Yaml
