import Formulary.Screen.Emoji
import Formulary.Text.Blank
import Formulary.Text.Case

set_option autoImplicit false

namespace Formulary.Screen.Markup

inductive Piece where
  | plain (cs : List Char)
  | tag (backslashes : Nat) (name : List Char)

def startsTag (c : Char) : Bool :=
  ('a' ≤ c && c ≤ 'z') || c == '#' || c == '/' || c == '@'

def isBracket (c : Char) : Bool := c == '[' || c == ']'

def tag? : List Char → Option (List Char × List Char)
  | '[' :: c :: cs =>
      if startsTag c then
        match cs.dropWhile fun d => !isBracket d with
        | ']' :: rest => some (c :: cs.takeWhile (fun d => !isBracket d), rest)
        | _ => none
      else none
  | _ => none

def addPlain (cs : List Char) (pieces : List Piece) : List Piece :=
  match pieces with
  | .plain ds :: rest => .plain (cs ++ ds) :: rest
  | _ => .plain cs :: pieces

def pieces : Nat → List Char → List Piece
  | 0, cs => [.plain cs]
  | _, [] => []
  | fuel + 1, c :: cs =>
      let slashes := (c :: cs).takeWhile (· == '\\')
      match tag? ((c :: cs).dropWhile (· == '\\')) with
      | some (name, rest) => .tag slashes.length name :: pieces fuel rest
      | none => addPlain [c] (pieces fuel cs)

def split (cs : List Char) : List Piece := pieces cs.length cs

def slashes (n : Nat) : List Char := List.replicate n '\\'

def bracketed (name : List Char) : List Char := '[' :: name ++ [']']

def closeEnd (cs : List Char) : List Char :=
  match cs.reverse with
  | '\\' :: '\\' :: _ => cs
  | '\\' :: _ => cs ++ ['\\']
  | _ => cs

def escapePiece : Piece → List Char
  | .plain cs => cs
  | .tag n name => slashes (2 * n + 1) ++ bracketed name

def escape (cs : List Char) : List Char := closeEnd ((split cs).flatMap escapePiece)

def unescape : List Char → List Char
  | '\\' :: '[' :: cs => '[' :: unescape cs
  | c :: cs => c :: unescape cs
  | [] => []

def tagKey (name : List Char) : String :=
  Text.lower (String.ofList (Text.trim (name.takeWhile (· != '='))))

def close? (key : String) (open_ : List String) : Option (List String) :=
  if key = "" then match open_ with
    | [] => none
    | _ :: rest => some rest
  else if open_.contains key then some (open_.erase key)
  else none

def shownFrom : List String → List Piece → Option (List Char)
  | _, [] => some []
  | open_, .plain cs :: rest => (shownFrom open_ rest).map (Emoji.replace (unescape cs) ++ ·)
  | open_, .tag n name :: rest =>
      let front := slashes (n / 2)
      if n % 2 = 1 then
        (shownFrom open_ rest).map (front ++ Emoji.replace (bracketed name) ++ ·)
      else
        match name with
        | '/' :: key => do
            let left ← close? (tagKey key) open_
            (shownFrom left rest).map (front ++ ·)
        | _ => (shownFrom (tagKey name :: open_) rest).map (front ++ ·)

def isControl (c : Char) : Bool :=
  c == '\x07' || c == '\x08' || c == '\x0b' || c == '\x0c' || c == '\r'

def shown? (cs : List Char) : Option (List Char) :=
  (shownFrom [] (split cs)).map (·.filter fun c => !isControl c)

def literal (cs : List Char) : List Char := (shown? (escape cs)).getD cs

end Formulary.Screen.Markup
