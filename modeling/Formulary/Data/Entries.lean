import Formulary.Data.Datum

set_option autoImplicit false

namespace Formulary

namespace Decimal

def intOfFloat? (x : Float) : Option Int :=
  if x.isNaN || x.isInf then none
  else
    let (num, den) := ratio (magnitudeBits x)
    if num % den ≠ 0 then none
    else some (if isNegative x then -((num / den : Nat) : Int) else (num / den : Nat))

end Decimal

namespace Scalar

def integer? : Scalar → Option Int
  | .boolean b => some (if b then 1 else 0)
  | .integer n => some n
  | .float x => Decimal.intOfFloat? x
  | _ => none

/-- Whether two keys name the same entry. Points in time are compared as instants, and all that is
not a number is one key. -/
def sameKey : Scalar → Scalar → Bool
  | .null, .null => true
  | .text s, .text t => s == t
  | .date d, .date e => d == e
  | .moment m, .moment n => m.same n
  | .bytes a, .bytes b => a == b
  | .float x, .float y => x == y || (x.isNaN && y.isNaN)
  | a, b =>
      match a.integer?, b.integer? with
      | some n, some m => n == m
      | _, _ => false

@[simp] theorem sameKey_text (s t : String) : sameKey (.text s) (.text t) = (s == t) := by
  simp [sameKey]

end Scalar

abbrev Entries := List (Scalar × Datum)

namespace Entries

def get? (es : Entries) (key : Scalar) : Option Datum :=
  (es.find? fun e => e.1.sameKey key).map Prod.snd

-- A key that is there keeps its place and its spelling.
def put : Entries → Scalar → Datum → Entries
  | [], key, d => [(key, d)]
  | (k, old) :: rest, key, d =>
      if k.sameKey key then (k, d) :: rest else (k, old) :: put rest key d

def ofList (items : List (Scalar × Datum)) : Entries :=
  items.foldl (fun es e => put es e.1 e.2) []

def under (es : Entries) (key : Scalar) : Entries :=
  match get? es key with
  | some (.map inner) => inner
  | _ => []

end Entries

end Formulary
