import Formulary.Yaml.Cursor

set_option autoImplicit false

namespace Formulary.Yaml.Plain

def isFlowMark (c : Char) : Bool := c == ',' || c == '[' || c == ']' || c == '{' || c == '}'

def endsAtColon (inFlow : Bool) (cs : List Char) : Bool :=
  atGap cs || (inFlow && cs.head?.any isFlowMark)

def endsAt (inFlow : Bool) (c : Char) (cs : List Char) : Bool :=
  isBreak c || isSpaceOrTab c || (c == ':' && endsAtColon inFlow cs) ||
    (inFlow && (isFlowMark c || c == '?'))

def run (inFlow : Bool) : List Char → List Char × List Char
  | [] => ([], [])
  | c :: cs =>
      if endsAt inFlow c cs then ([], c :: cs)
      else
        let (more, rest) := run inFlow cs
        (c :: more, rest)

structure Gap where
  kept : List Char
  rest : List Char
  broken : Bool
  column : Nat

def emptyLines : Nat → Nat → List Char → Option (List Char) × Nat × List Char
  | 0, column, cs => (some [], column, cs)
  | fuel + 1, column, cs =>
      match cs with
      | ' ' :: rest => emptyLines fuel (column + 1) rest
      | _ =>
          match takeBreak? cs with
          | none => (some [], column, cs)
          | some (b, rest) =>
              if atSeparator rest then (none, 0, rest)
              else
                let (more, column, rest) := emptyLines fuel 0 rest
                (more.map (b :: ·), column, rest)

def gap (cs : List Char) : Gap :=
  let rest := cs.dropWhile (· == ' ')
  match takeBreak? rest with
  | none => ⟨cs.takeWhile (· == ' '), rest, false, 0⟩
  | some (b, rest) =>
      if atSeparator rest then ⟨[], rest, true, 0⟩
      else
        match emptyLines (rest.length + 1) 0 rest with
        | (none, column, rest) => ⟨[], rest, true, column⟩
        | (some more, column, rest) =>
            let first := if b ≠ '\n' then [b] else if more = [] then [' '] else []
            ⟨first ++ more, rest, true, column⟩

structure Reading where
  text : List Char
  rest : List Char
  -- The text ended at a line of its own, so that a key may come next.
  broken : Bool

def readFrom (inFlow : Bool) (indent : Nat) : Nat → List Char → Reading
  | 0, cs => ⟨[], cs, false⟩
  | fuel + 1, cs =>
      let (text, rest) := run inFlow cs
      let gap := gap rest
      if gap.kept = [] ∨ gap.rest.head? = some '#' ∨
          (!inFlow && gap.broken && gap.column < indent) ∨ (run inFlow gap.rest).1 = [] then
        ⟨text, gap.rest, gap.broken⟩
      else
        let more := readFrom inFlow indent fuel gap.rest
        { more with text := text ++ gap.kept ++ more.text }

def read (inFlow : Bool) (indent : Nat) (cs : List Char) : Reading :=
  readFrom inFlow indent (cs.length + 1) cs

end Formulary.Yaml.Plain
