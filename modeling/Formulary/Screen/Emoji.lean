import Formulary.Screen.EmojiTable
import Formulary.Text.Blank
import Formulary.Text.Case
import Formulary.Text.Split

set_option autoImplicit false

namespace Formulary.Screen

structure Emoji where
  name : String
  hasTones : Bool
  signs : List Char

namespace Emoji

def ofText? (cs : List Char) : Option Emoji :=
  let signs := cs.reverse.takeWhile fun c => c != '=' && c != '+'
  match cs.reverse.drop signs.length with
  | mark :: name => some ⟨String.ofList name.reverse, mark == '+', signs.reverse⟩
  | [] => none

def every : List Emoji :=
  emojiLines.flatMap fun line =>
    (Text.split [' '] line.toList).filterMap fun entry => ofText? entry.toList

def tones : List (String × Char) := [
  ("_light_skin_tone", '🏻'), ("_medium-light_skin_tone", '🏼'), ("_medium_skin_tone", '🏽'),
  ("_medium-dark_skin_tone", '🏾'), ("_dark_skin_tone", '🏿')]

def presentations : List (String × Char) := [("-emoji", '\ufe0f'), ("-text", '\ufe0e')]

def withoutEnd? (ends : List (String × Char)) (name : List Char) : Option (List Char × Char) :=
  ends.findSome? fun e =>
    let suffix := e.1.toList
    if suffix.isSuffixOf name then some (name.take (name.length - suffix.length), e.2) else none

def toned (e : Emoji) (tone : Char) : List Char :=
  e.signs.take 1 ++ tone :: (e.signs.drop 1).dropWhile (· == '\ufe0f')

def named? (name : List Char) : Option (List Char) :=
  match every.find? (·.name == String.ofList name) with
  | some e => some e.signs
  | none => do
      let (base, tone) ← withoutEnd? tones name
      let e ← every.find? fun e => e.hasTones && e.name == String.ofList base
      return e.toned tone

def lowered (name : List Char) : List Char := (Text.lower (String.ofList name)).toList

def signs? (name : List Char) : Option (List Char) :=
  match withoutEnd? presentations name with
  | some (base, presentation) => (named? (lowered base)).map (· ++ [presentation])
  | none => named? (lowered name)

def replaceFrom : Nat → List Char → List Char
  | 0, cs => cs
  | _, [] => []
  | fuel + 1, c :: cs =>
      let name := cs.takeWhile fun d => d != ':' && !Text.isBlank d
      match c, cs.drop name.length with
      | ':', ':' :: rest => (signs? name).getD (':' :: name ++ [':']) ++ replaceFrom fuel rest
      | _, _ => c :: replaceFrom fuel cs

def replace (cs : List Char) : List Char := replaceFrom cs.length cs

end Emoji

end Formulary.Screen
