import Formulary.Text.Span

set_option autoImplicit false

namespace Formulary.Text

def blankSpans : List (Nat × Nat) := [
  (0x9, 0xD), (0x1C, 0x20), (0x85, 0x85), (0xA0, 0xA0), (0x1680, 0x1680),
  (0x2000, 0x200A), (0x2028, 0x2029), (0x202F, 0x202F), (0x205F, 0x205F), (0x3000, 0x3000)]

def isBlank (c : Char) : Bool := within blankSpans c

@[simp] theorem isBlank_space : isBlank ' ' = true := by decide

def trimStart (cs : List Char) : List Char := cs.dropWhile isBlank

def trim (cs : List Char) : List Char := (trimStart (trimStart cs).reverse).reverse

/-- Every run of blanks becomes one space; `inRun` says that the run's space is already out. -/
def squeezeFrom : Bool → List Char → List Char
  | _, [] => []
  | inRun, c :: cs =>
      if isBlank c then
        if inRun then squeezeFrom true cs else ' ' :: squeezeFrom true cs
      else c :: squeezeFrom false cs

def squeeze (cs : List Char) : List Char := squeezeFrom false cs

def trimmed (s : String) : String := String.ofList (trim s.toList)

end Formulary.Text
