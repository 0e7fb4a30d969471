import Formulary.Yaml.Cursor
import Formulary.Yaml.Flaw
import Formulary.Yaml.Scalar.Quoted

set_option autoImplicit false

namespace Formulary.Yaml

structure TagName where
  handle : Option String
  suffix : String
deriving Repr, DecidableEq

inductive Directive where
  | version (major : Nat)
  | handle (name uri : String)
  | other
deriving Repr, DecidableEq

inductive Token where
  | directive (d : Directive)
  | documentStart
  | documentEnd
  | sequenceStart
  | mappingStart
  -- Ends what was opened by indentation.
  | blockEnd
  | leftBracket
  | rightBracket
  | leftBrace
  | rightBrace
  | dash
  | comma
  | key
  | value
  | alias_ (name : String)
  | anchor (name : String)
  | tag (name : TagName)
  | scalar (text : String) (isPlain : Bool)
deriving Repr, DecidableEq

namespace Token

def word (cs : List Char) : Except Flaw (String × List Char) :=
  let w := cs.takeWhile isWordChar
  if w = [] then .error .malformed else .ok (String.ofList w, cs.dropWhile isWordChar)

def followsName (cs : List Char) : Bool :=
  atGap cs || cs.head?.any fun c => c ∈ ['?', ':', ',', ']', '}', '%', '@', '\x60']

def name (cs : List Char) : Except Flaw (String × List Char) := do
  let (w, rest) ← word cs
  if followsName rest then return (w, rest) else throw .malformed

def handle (cs : List Char) : Except Flaw (String × List Char) :=
  match cs with
  | '!' :: ' ' :: rest => .ok ("!", ' ' :: rest)
  | '!' :: rest =>
      let w := rest.takeWhile isWordChar
      match rest.dropWhile isWordChar with
      | '!' :: rest => .ok (String.ofList ('!' :: w ++ ['!']), rest)
      | _ => .error .malformed
  | _ => .error .malformed

def uriMarks : List Char := "-;/?:@&=+$,_.!~*'()[]%".toList

def isUriChar (c : Char) : Bool :=
  Text.isAsciiDigit c || Text.isAsciiLetter c || uriMarks.contains c

def escapedBytes : Nat → List Char → Except Flaw (List UInt8 × List Char)
  | fuel + 1, '%' :: a :: b :: rest =>
      if Quoted.isHexDigit a && Quoted.isHexDigit b then do
        let (more, rest) ← escapedBytes fuel rest
        return (UInt8.ofNat (Quoted.hexNumber [a, b]) :: more, rest)
      else .error .malformed
  | _ + 1, '%' :: _ => .error .malformed
  | _, cs => .ok ([], cs)

def uriFrom : Nat → List Char → Except Flaw (List Char × List Char)
  | 0, cs => .ok ([], cs)
  | _, [] => .ok ([], [])
  | fuel + 1, c :: cs =>
      if c = '%' then do
        let (bytes, rest) ← escapedBytes (cs.length + 1) (c :: cs)
        match String.fromUTF8? (ByteArray.mk bytes.toArray) with
        | none => throw .malformed
        | some s =>
            let (more, rest) ← uriFrom fuel rest
            return (s.toList ++ more, rest)
      else if isUriChar c then do
        let (more, rest) ← uriFrom fuel cs
        return (c :: more, rest)
      else .ok ([], c :: cs)

def uri (cs : List Char) : Except Flaw (String × List Char) := do
  if !cs.head?.any isUriChar then throw .malformed
  let (text, rest) ← uriFrom (cs.length + 1) cs
  return (String.ofList text, rest)

def hasHandle (cs : List Char) : Bool :=
  (cs.takeWhile fun c => !(isBreak c || c == ' ')).contains '!'

def tagName (cs : List Char) : Except Flaw (TagName × List Char) := do
  let (name, rest) ← match cs with
    | '!' :: '<' :: rest => do
        let (suffix, rest) ← uri rest
        match rest with
        | '>' :: rest => pure ((⟨none, suffix⟩ : TagName), rest)
        | _ => throw .malformed
    | _ =>
        let rest := cs.tail
        if atGap rest then pure (⟨none, "!"⟩, rest)
        else do
          let (h, rest) ← if hasHandle rest then handle cs else pure ("!", rest)
          let (suffix, rest) ← uri rest
          pure (⟨some h, suffix⟩, rest)
  if atSpace rest then return (name, rest) else throw .malformed

def digits (cs : List Char) : Except Flaw (Nat × List Char) :=
  let ds := cs.takeWhile Text.isAsciiDigit
  if ds = [] then .error .malformed
  else if 4300 < ds.length then .error .outOfKind
  else .ok (ds.foldl (fun n c => 10 * n + Text.asciiDigit c) 0, cs.dropWhile Text.isAsciiDigit)

def skipSpaces (cs : List Char) : List Char := cs.dropWhile (· == ' ')

def version (cs : List Char) : Except Flaw (Directive × List Char) := do
  let (major, rest) ← digits (skipSpaces cs)
  match rest with
  | '.' :: rest =>
      let (_, rest) ← digits rest
      if atSpace rest then return (.version major, rest) else throw .malformed
  | _ => throw .malformed

def handleDirective (cs : List Char) : Except Flaw (Directive × List Char) := do
  let (h, rest) ← handle (skipSpaces cs)
  if rest.head? ≠ some ' ' then throw .malformed
  let (u, rest) ← uri (skipSpaces rest)
  if atSpace rest then return (.handle h u, rest) else throw .malformed

def readDirective (cs : List Char) : Except Flaw (Directive × List Char) := do
  let (w, rest) ← word cs.tail
  if !atSpace rest then throw .malformed
  let (d, rest) ←
    if w = "YAML" then version rest
    else if w = "TAG" then handleDirective rest
    else pure (.other, rest.dropWhile fun c => !isBreak c)
  let rest := skipSpaces rest
  let rest := if rest.head? = some '#' then rest.dropWhile fun c => !isBreak c else rest
  if atBreak rest then return (d, (takeBreak? rest).elim rest Prod.snd) else throw .malformed

end Token

end Formulary.Yaml
