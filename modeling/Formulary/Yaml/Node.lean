import Formulary.Yaml.Layout
import Formulary.Yaml.Tag

set_option autoImplicit false

namespace Formulary.Yaml

inductive Node where
  | scalar (tag : Tag) (text : String)
  | sequence (tag : Tag) (items : List Node)
  | mapping (tag : Tag) (pairs : List (Node × Node))

namespace Node

structure Reading where
  stream : Stream
  anchors : List (String × Node) := []
  handles : List (String × String) := []

abbrev Reader := StateT Reading (Except Flaw)

def peek : Reader (Option Token) := do
  let stream := (← get).stream
  match stream.tokens, stream.flaw with
  | t :: _, _ => return some t
  | [], some flaw => throw flaw
  | [], none => return none

def advance : Reader Unit :=
  modify fun r => { r with stream := { r.stream with tokens := r.stream.tokens.tail } }

def skip (t : Token) : Reader Bool := do
  if (← peek) = some t then
    advance
    return true
  else return false

def expect (t : Token) : Reader Unit := do
  if !(← skip t) then throw .malformed

def empty : Node := .scalar .null ""

def anchor? : Reader (Option String) := do
  match ← peek with
  | some (.anchor name) =>
      advance
      return some name
  | _ => return none

def tagName? : Reader (Option TagName) := do
  match ← peek with
  | some (.tag name) =>
      advance
      return some name
  | _ => return none

def properties : Reader (Option String × Option TagName) := do
  match ← anchor? with
  | some a => return (some a, ← tagName?)
  | none =>
      match ← tagName? with
      | some t => return (← anchor?, some t)
      | none => return (none, none)

def uri? (name : Option TagName) : Reader (Option String) := do
  match name with
  | none => return none
  | some ⟨none, suffix⟩ => return some suffix
  | some ⟨some handle, suffix⟩ =>
      match (← get).handles.lookup handle with
      | some start => return some (start ++ suffix)
      | none => throw .malformed

def isOpen (uri : Option String) : Bool := uri.all (· == "!")

def collectionTag (uri : Option String) (usual : Tag) : Tag :=
  if isOpen uri then usual else (uri.map Tag.ofUri).getD usual

def scalarTag (uri : Option String) (isPlain : Bool) (text : String) : Tag :=
  match uri with
  | none => if isPlain then Tag.implied text else .text
  | some "!" => Tag.implied text
  | some u => Tag.ofUri u

def define (anchor : Option String) (n : Node) : Reader Unit :=
  match anchor with
  | none => return
  | some name => modify fun r => { r with anchors := (name, n) :: r.anchors }

-- A collection may be named within itself; there it counts as an empty one.
def defining (anchor : Option String) (unfinished : Node) (whole : Reader Node) : Reader Node := do
  define anchor unfinished
  let n ← whole
  define anchor n
  return n

inductive Place where
  | flow
  | block
  -- A value in a mapping: the dashes of a sequence may stand right under its key.
  | underKey
deriving DecidableEq

def startsNothing (next : Option Token) (ends : List Token) : Bool :=
  match next with
  | none => false
  | some t => ends.contains t

mutual

def node : Nat → Place → Reader Node
  | 0, _ => throw .malformed
  | fuel + 1, place => do
      match ← peek with
      | some (.alias_ name) =>
          advance
          match (← get).anchors.lookup name with
          | some n => return n
          | none => throw .malformed
      | _ =>
          let (anchor, name) ← properties
          let uri ← uri? name
          let next ← peek
          let known := (← get).anchors
          if anchor.any fun a => (known.lookup a).isSome then throw .malformed
          content fuel place anchor uri next

def content : Nat → Place → Option String → Option String → Option Token → Reader Node
  | 0, _, _, _, _ => throw .malformed
  | fuel + 1, place, anchor, uri, next => do
      let sequence (items : Reader (List Node)) : Reader Node :=
        let tag := collectionTag uri .sequence
        defining anchor (.sequence tag []) (.sequence tag <$> items)
      let mapping (pairs : Reader (List (Node × Node))) : Reader Node :=
        let tag := collectionTag uri .mapping
        defining anchor (.mapping tag []) (.mapping tag <$> pairs)
      match next with
      | some (.scalar text isPlain) =>
          advance
          let n := Node.scalar (scalarTag uri isPlain text) text
          define anchor n
          return n
      | some .leftBracket =>
          advance
          sequence (flowItems fuel true)
      | some .leftBrace =>
          advance
          mapping (flowPairs fuel true)
      | some .dash =>
          if place = .underKey then sequence (dashesUnderKey fuel)
          else vacant anchor uri
      | some .sequenceStart =>
          if place = .flow then vacant anchor uri
          else
            advance
            sequence (dashes fuel)
      | some .mappingStart =>
          if place = .flow then vacant anchor uri
          else
            advance
            mapping (blockPairs fuel)
      | _ => vacant anchor uri

def vacant (anchor uri : Option String) : Reader Node := do
  if anchor.isNone && uri.isNone then throw .malformed
  let n := Node.scalar (scalarTag uri true "") ""
  define anchor n
  return n

def nodeUnless : Nat → Place → List Token → Reader Node
  | 0, _, _ => throw .malformed
  | fuel + 1, place, ends => do
      if startsNothing (← peek) ends then return empty else node fuel place

def dashes : Nat → Reader (List Node)
  | 0 => throw .malformed
  | fuel + 1 => do
      if ← skip .dash then
        let n ← nodeUnless fuel .block [.dash, .blockEnd]
        return n :: (← dashes fuel)
      else
        expect .blockEnd
        return []

def dashesUnderKey : Nat → Reader (List Node)
  | 0 => throw .malformed
  | fuel + 1 => do
      if ← skip .dash then
        let n ← nodeUnless fuel .block [.dash, .key, .value, .blockEnd]
        return n :: (← dashesUnderKey fuel)
      else return []

def blockPairs : Nat → Reader (List (Node × Node))
  | 0 => throw .malformed
  | fuel + 1 => do
      if ← skip .key then
        let k ← nodeUnless fuel .underKey [.key, .value, .blockEnd]
        let v ← blockValue fuel
        return (k, v) :: (← blockPairs fuel)
      else
        expect .blockEnd
        return []

def blockValue : Nat → Reader Node
  | 0 => throw .malformed
  | fuel + 1 => do
      if ← skip .value then nodeUnless fuel .underKey [.key, .value, .blockEnd]
      else return empty

def flowItems : Nat → Bool → Reader (List Node)
  | 0, _ => throw .malformed
  | fuel + 1, isFirst => do
      if ← skip .rightBracket then return []
      if !isFirst then expect .comma
      if ← skip .key then
        let k ← nodeUnless fuel .flow [.value, .comma, .rightBracket]
        let v ← flowValue fuel .rightBracket
        return .mapping .mapping [(k, v)] :: (← flowItems fuel false)
      else if ← skip .rightBracket then return []
      else
        let n ← node fuel .flow
        return n :: (← flowItems fuel false)

def flowPairs : Nat → Bool → Reader (List (Node × Node))
  | 0, _ => throw .malformed
  | fuel + 1, isFirst => do
      if ← skip .rightBrace then return []
      if !isFirst then expect .comma
      if ← skip .key then
        let k ← nodeUnless fuel .flow [.value, .comma, .rightBrace]
        let v ← flowValue fuel .rightBrace
        return (k, v) :: (← flowPairs fuel false)
      else if ← skip .rightBrace then return []
      else
        let k ← node fuel .flow
        return (k, empty) :: (← flowPairs fuel false)

def flowValue : Nat → Token → Reader Node
  | 0, _ => throw .malformed
  | fuel + 1, close => do
      if ← skip .value then nodeUnless fuel .flow [.comma, close] else return empty

end

def usualHandles : List (String × String) := [("!", "!"), ("!!", Tag.family)]

def directives : Nat → Bool → Reader Unit
  | 0, _ => return
  | fuel + 1, isVersioned => do
      match ← peek with
      | some (.directive d) =>
          advance
          match d with
          | .version major =>
              if isVersioned || major != 1 then throw .malformed
              directives fuel true
          | .handle name start =>
              if ((← get).handles.lookup name).isSome then throw .malformed
              modify fun r => { r with handles := (name, start) :: r.handles }
              directives fuel isVersioned
          | .other => directives fuel isVersioned
      | _ => modify fun r => { r with handles := r.handles ++ usualHandles }

def isBoundary : Token → Bool
  | .directive _ | .documentStart | .documentEnd => true
  | _ => false

def skipEnds : Nat → Reader Unit
  | 0 => return
  | fuel + 1 => do
      if ← skip .documentEnd then skipEnds fuel

def document (fuel : Nat) : Reader (Option Node) := do
  let root ← match ← peek with
    | none => return none
    | some t =>
        if t = .documentEnd ∨ ¬ isBoundary t then
          modify fun r => { r with handles := usualHandles }
          node fuel .block
        else
          directives fuel false
          expect .documentStart
          match ← peek with
          | none => pure empty
          | some t => if isBoundary t then pure empty else node fuel .block
  skipEnds fuel
  match ← peek with
  | none => return some root
  | some _ =>
      modify fun r => { r with handles := [] }
      directives fuel false
      throw .malformed

-- Every step down the tree or along it is told by a token.
def ofText? (text : List Char) : Except Flaw (Option Node) :=
  let stream := Stream.ofText text
  ((document (4 * stream.tokens.length + 4)).run { stream := stream }).map Prod.fst

end Node

end Formulary.Yaml
