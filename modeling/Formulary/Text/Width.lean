import Formulary.Text.Span
import Formulary.Text.WidthTable

set_option autoImplicit false

namespace Formulary.Text

def charWidth (c : Char) : Nat :=
  let n := c.toNat
  if (n ≠ 0 ∧ n < 0x20) ∨ (0x7F ≤ n ∧ n < 0xA0) then 0
  else if within zeroSpans c then 0
  else if within wideSpans c then 2
  else 1

def joiner : Char := '\u200d'

def pictureSign : Char := '\ufe0f'

def becomesPicture (last : Option Char) : Bool := last.any (within pictureSpans)

def remember (last : Option Char) (c : Char) : Option Char :=
  if charWidth c = 0 then last else some c

def widthFrom : Option Char → List Char → Nat
  | _, [] => 0
  | last, [c] =>
      if c = joiner then 0
      else if c = pictureSign then if becomesPicture last then 1 else 0
      else charWidth c
  | last, c :: d :: cs =>
      if c = joiner then widthFrom last cs
      else if c = pictureSign then
        (if becomesPicture last then 1 else 0) + widthFrom none (d :: cs)
      else charWidth c + widthFrom (remember last c) (d :: cs)

def width (cs : List Char) : Nat := widthFrom none cs

structure Cluster where
  text : List Char
  width : Nat

namespace Cluster

def extend (clusters : List Cluster) (cs : List Char) (more : Nat) : List Cluster :=
  match clusters with
  | [] => [⟨cs, more⟩]
  | c :: rest => ⟨c.text ++ cs, c.width + more⟩ :: rest

def gather : List Cluster → Option Char → List Char → List Cluster
  | done, _, [] => done
  | done, last, [c] =>
      if c = pictureSign ∧ done ≠ [] ∧ becomesPicture last then extend done [c] 1
      else if c = joiner ∨ c = pictureSign ∨ charWidth c = 0 then extend done [c] 0
      else ⟨[c], charWidth c⟩ :: done
  | done, last, c :: d :: cs =>
      if done = [] ∧ (c = joiner ∨ c = pictureSign) then gather [⟨[c], 0⟩] last (d :: cs)
      else if c = joiner then gather (extend done [c, d] 0) last cs
      else if c = pictureSign then
        if becomesPicture last then gather (extend done [c] 1) none (d :: cs)
        else gather (extend done [c] 0) last (d :: cs)
      else if charWidth c = 0 then gather (extend done [c] 0) last (d :: cs)
      else gather (⟨[c], charWidth c⟩ :: done) (some c) (d :: cs)

end Cluster

def clusters (cs : List Char) : List Cluster := (Cluster.gather [] none cs).reverse

def spaces (n : Nat) : List Char := List.replicate n ' '

def cutFrom : Nat → List Cluster → List Char
  | _, [] => []
  | room, c :: rest =>
      if c.width ≤ room then c.text ++ cutFrom (room - c.width) rest
      else spaces room

def fit (room : Nat) (cs : List Char) : List Char :=
  if width cs ≤ room then cs ++ spaces (room - width cs) else cutFrom room (clusters cs)

def chopFrom (room : Nat) : List Char → Nat → List Cluster → List (List Char)
  | line, used, [] => if used = 0 then [] else [line]
  | line, used, c :: rest =>
      if room < used + c.width then line :: chopFrom room c.text c.width rest
      else chopFrom room (line ++ c.text) (used + c.width) rest

def chop (room : Nat) (cs : List Char) : List (List Char) := chopFrom room [] 0 (clusters cs)

end Formulary.Text
