import Formulary.Text.Span

set_option autoImplicit false

namespace Formulary.Screen.Control

def isParameter (c : Char) : Bool := Text.isAsciiDigit c || c == ';' || c == '?'

def sequenceLength : List Char → Nat
  | '\x1b' :: '[' :: cs =>
      let parameters := (cs.takeWhile isParameter).length
      if (cs.drop parameters).head?.any Text.isAsciiLetter then parameters + 3 else 0
  | _ => 0

-- `skip` counts the characters of a sequence that are still to be left out.
def leaveOut : Nat → List Char → List Char
  | _, [] => []
  | skip + 1, _ :: cs => leaveOut skip cs
  | 0, c :: cs =>
      match sequenceLength (c :: cs) with
      | 0 => c :: leaveOut 0 cs
      | length + 1 => leaveOut length cs

def strip (s : String) : String := String.ofList (leaveOut 0 s.toList)

end Formulary.Screen.Control
