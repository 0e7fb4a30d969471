import Formulary.Yaml.Cursor
import Formulary.Yaml.Flaw

set_option autoImplicit false

namespace Formulary.Yaml.Quoted

def isHexDigit (c : Char) : Bool :=
  Text.isAsciiDigit c || ('a' ≤ c && c ≤ 'f') || ('A' ≤ c && c ≤ 'F')

def hexDigit (c : Char) : Nat :=
  if Text.isAsciiDigit c then Text.asciiDigit c
  else c.toLower.toNat - 'a'.toNat + 10

def hexNumber (ds : List Char) : Nat := ds.foldl (fun n c => 16 * n + hexDigit c) 0

def named? : Char → Option Char
  | '0' => some '\x00'
  | 'a' => some '\x07'
  | 'b' => some '\x08'
  | 't' | '\t' => some '\t'
  | 'n' => some '\n'
  | 'v' => some '\x0b'
  | 'f' => some '\x0c'
  | 'r' => some '\r'
  | 'e' => some '\x1b'
  | ' ' => some ' '
  | '"' => some '"'
  | '\\' => some '\\'
  | '/' => some '/'
  | 'N' => some '\u0085'
  | '_' => some '\u00a0'
  | 'L' => some '\u2028'
  | 'P' => some '\u2029'
  | _ => none

def codeWidth? : Char → Option Nat
  | 'x' => some 2
  | 'u' => some 4
  | 'U' => some 8
  | _ => none

def code? (width : Nat) (cs : List Char) : Except Flaw Nat :=
  let ds := cs.take width
  if ds.length = width ∧ ds.all isHexDigit then .ok (hexNumber ds) else .error .malformed

def isSurrogate (n : Nat) : Bool := 0xD800 ≤ n && n ≤ 0xDFFF

def character (width n : Nat) (cs : List Char) : Except Flaw (Char × List Char) :=
  if 0x7FFFFFFF < n then .error .tooLarge
  else if 0x10FFFF < n then .error .outOfKind
  else if isSurrogate n then .error .surrogate
  else .ok (Char.ofNat n, cs.drop width)

def breaks : Nat → List Char → Except Flaw (List Char × List Char)
  | 0, cs => .ok ([], cs)
  | fuel + 1, cs =>
      if atSeparator cs then .error .malformed
      else
        let cs := cs.dropWhile isSpaceOrTab
        match takeBreak? cs with
        | none => .ok ([], cs)
        | some (b, rest) => do
            let (more, rest) ← breaks fuel rest
            return (b :: more, rest)

def gap (cs : List Char) : Except Flaw (List Char × List Char) :=
  let rest := cs.dropWhile isSpaceOrTab
  match takeBreak? rest with
  | none =>
      if rest = [] then .error .malformed else .ok (cs.takeWhile isSpaceOrTab, rest)
  | some (b, rest) => do
      let (more, rest) ← breaks (rest.length + 1) rest
      if b ≠ '\n' then return (b :: more, rest)
      else if more = [] then return ([' '], rest)
      else return (more, rest)

def escape (cs : List Char) : Except Flaw (List Char × List Char) :=
  match cs with
  | [] => .error .malformed
  | c :: rest =>
      match named? c, codeWidth? c, takeBreak? cs with
      | some d, _, _ => .ok ([d], rest)
      | _, some width, _ => do
          let (d, rest) ← character width (← code? width rest) rest
          return ([d], rest)
      | _, _, some (_, rest) => breaks (rest.length + 1) rest
      | _, _, _ => .error .malformed

def piece (quote : Char) (cs : List Char) : Except Flaw (Option (List Char × List Char)) :=
  match cs with
  | [] => .error .malformed
  | c :: rest =>
      if isBreak c || isSpaceOrTab c then some <$> gap cs
      else if quote = '"' ∧ c = '\\' then some <$> escape rest
      else if quote = '\'' ∧ c = '\'' ∧ rest.head? = some '\'' then
        .ok (some (['\''], rest.tail))
      else if c = quote then .ok none
      else .ok (some ([c], rest))

def body (quote : Char) : Nat → List Char → Except Flaw (List Char × List Char)
  | 0, _ => .error .malformed
  | fuel + 1, cs => do
      match ← piece quote cs with
      | none => return ([], cs.tail)
      | some (text, rest) =>
          let (more, rest) ← body quote fuel rest
          return (text ++ more, rest)

def read (quote : Char) (cs : List Char) : Except Flaw (List Char × List Char) :=
  body quote (cs.length + 1) cs

end Formulary.Yaml.Quoted
