set_option autoImplicit false

namespace Formulary.Text

def commonFront : List Char → List Char → Nat
  | a :: as, b :: bs => if a = b then commonFront as bs + 1 else 0
  | _, _ => 0

structure Run where
  first : Nat
  second : Nat
  length : Nat

def longer (a b : Run) : Run := if a.length < b.length then b else a

-- The longest run that two texts share; of several the one that comes first.
def longestRun (as bs : List Char) : Run :=
  let runs := (List.range as.length).flatMap fun i =>
    (List.range bs.length).map fun j => (⟨i, j, commonFront (as.drop i) (bs.drop j)⟩ : Run)
  runs.foldl longer ⟨0, 0, 0⟩

def shared : Nat → List Char → List Char → Nat
  | 0, _, _ => 0
  | fuel + 1, as, bs =>
      let r := longestRun as bs
      if r.length = 0 then 0
      else
        shared fuel (as.take r.first) (bs.take r.second) + r.length +
          shared fuel (as.drop (r.first + r.length)) (bs.drop (r.second + r.length))

structure Likeness where
  part : Nat
  whole : Nat

def likeness (candidate word : List Char) : Likeness :=
  if candidate = [] ∧ word = [] then ⟨1, 1⟩
  else ⟨2 * shared candidate.length candidate word, candidate.length + word.length⟩

def Likeness.le (a b : Likeness) : Bool := a.part * b.whole ≤ b.part * a.whole

def enough : Likeness := ⟨3, 5⟩

def isBetter (a b : Likeness × String) : Bool :=
  if a.1.le b.1 && b.1.le a.1 then !(a.2 < b.2) else b.1.le a.1

def similar (word : String) (candidates : List String) : List String :=
  let rated := candidates.map fun c => (likeness c.toList word.toList, c)
  let close := (rated.filter fun c => enough.le c.1).mergeSort isBetter
  ((close.take 3).map Prod.snd).mergeSort fun a b => !(b < a)

end Formulary.Text
