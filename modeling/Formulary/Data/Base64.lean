import Formulary.Text.Span

set_option autoImplicit false

namespace Formulary.Base64

def sextet? (c : Char) : Option Nat :=
  if 'A' ≤ c && c ≤ 'Z' then some (c.toNat - 'A'.toNat)
  else if 'a' ≤ c && c ≤ 'z' then some (c.toNat - 'a'.toNat + 26)
  else if Text.isAsciiDigit c then some (Text.asciiDigit c + 52)
  else if c = '+' then some 62
  else if c = '/' then some 63
  else none

-- Four characters hold three bytes. `left` are the bits of the current four that are not out
-- yet, `place` says how many of the four there were, `pads` how many signs of padding follow
-- them. Other characters are passed over.
def decodeFrom (place pads left : Nat) : List Char → Option (List UInt8)
  | [] => if place = 0 then some [] else none
  | '=' :: cs =>
      if 2 ≤ place then
        if 4 ≤ place + pads + 1 then some [] else decodeFrom place (pads + 1) left cs
      else decodeFrom place pads left cs
  | c :: cs =>
      match sextet? c with
      | none => decodeFrom place pads left cs
      | some n =>
          match place with
          | 0 => decodeFrom 1 0 n cs
          | 1 => (decodeFrom 2 0 (n % 16) cs).map (UInt8.ofNat (4 * left + n / 16) :: ·)
          | 2 => (decodeFrom 3 0 (n % 4) cs).map (UInt8.ofNat (16 * left + n / 4) :: ·)
          | _ => (decodeFrom 0 0 0 cs).map (UInt8.ofNat (64 * left + n) :: ·)

def decode? (cs : List Char) : Option (List UInt8) := decodeFrom 0 0 0 cs

end Formulary.Base64
