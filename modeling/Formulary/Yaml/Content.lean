import Formulary.Data.Base64
import Formulary.Data.Entries
import Formulary.Decimal.Free
import Formulary.Text.Case
import Formulary.Yaml.Node

set_option autoImplicit false

namespace Formulary.Yaml

namespace Content

def truth (text : String) : Except Flaw Scalar :=
  let w := Text.lower text
  if w ∈ ["yes", "true", "on"] then .ok (.boolean true)
  else if w ∈ ["no", "false", "off"] then .ok (.boolean false)
  else .error .noTruthWord

def orOutOfKind {α : Type} (x : Option α) : Except Flaw α :=
  match x with
  | some a => .ok a
  | none => .error .outOfKind

def integerIn (base : Numeral.Base) (cs : List Char) : Except Flaw Int :=
  orOutOfKind (Numeral.freeIntegerIn? base (String.ofList cs))

def sixtieths (parts : List String) : Except Flaw Int := do
  let numbers ← parts.mapM fun part => orOutOfKind (Numeral.freeInteger? part)
  return numbers.foldl (fun n part => 60 * n + part) 0

def unsignedInteger (cs : List Char) : Except Flaw Int :=
  match cs with
  | [] => .error .noDigits
  | ['0'] => .ok 0
  | '0' :: 'b' :: ds => integerIn .binary ds
  | '0' :: 'x' :: ds => integerIn .sixteen ds
  | '0' :: _ => integerIn .octal cs
  | _ => if cs.contains ':' then sixtieths (Text.split [':'] cs) else integerIn .ten cs

def signed {α : Type} (negate : α → α) (read : List Char → Except Flaw α) (cs : List Char) :
    Except Flaw α :=
  match cs with
  | [] => .error .noDigits
  | '-' :: cs => negate <$> read cs
  | '+' :: cs => read cs
  | cs => read cs

def withoutUnderscores (text : String) : List Char := text.toList.filter (· != '_')

def integer (text : String) : Except Flaw Scalar :=
  .integer <$> signed (- ·) unsignedInteger (withoutUnderscores text)

def sixtiethsFrom (unit : Nat) (sum : Float) : List Float → Except Flaw Float
  | [] => .ok sum
  | x :: rest =>
      match Decimal.floatOfInt? unit with
      | some u => sixtiethsFrom (60 * unit) (sum + x * u) rest
      | none => .error .tooLarge

def unsignedFloat (cs : List Char) : Except Flaw Float :=
  if cs = ".inf".toList then .ok (Numeral.infinity false)
  else if cs = ".nan".toList then .ok Numeral.notANumber
  else if cs.contains ':' then do
    let parts ← (Text.split [':'] cs).mapM fun part => orOutOfKind (Numeral.freeFloat? part)
    sixtiethsFrom 1 0.0 parts.reverse
  else orOutOfKind (Numeral.freeFloat? (String.ofList cs))

def negate (x : Float) : Float := -1.0 * x

def float (text : String) : Except Flaw Scalar :=
  let lowered := Text.lower (String.ofList (withoutUnderscores text))
  .float <$> signed negate unsignedFloat lowered.toList

def timestamp (text : String) : Except Flaw Scalar :=
  match Stamp.read? (Tag.withoutBreak text.toList) with
  | none => .error .noMoment
  | some s => orOutOfKind s.scalar?

def binary (text : String) : Except Flaw Scalar :=
  if text.toList.all fun c => c.toNat < 0x80 then
    match Base64.decode? text.toList with
    | some bs => .ok (.bytes bs)
    | none => .error .malformed
  else .error .malformed

def reader? : Tag → Option (String → Except Flaw Scalar)
  | .null => some fun _ => .ok .null
  | .boolean => some truth
  | .integer => some integer
  | .float => some float
  | .binary => some binary
  | .timestamp => some timestamp
  | .text => some fun s => .ok (.text s)
  | _ => none

end Content

-- A flaw and how deep it lies. Of several the one nearest to the root is told, and of those the
-- first.
structure Trouble where
  depth : Nat
  flaw : Flaw

abbrev Built (α : Type) := Except Trouble α

namespace Built

def at_ {α : Type} (depth : Nat) (x : Except Flaw α) : Built α :=
  x.mapError fun flaw => ⟨depth, flaw⟩

def both {α β γ : Type} (f : α → β → γ) (a : Built α) (b : Built β) : Built γ :=
  match a, b with
  | .ok a, .ok b => .ok (f a b)
  | .error t, .ok _ => .error t
  | .ok _, .error t => .error t
  | .error s, .error t => .error (if t.depth < s.depth then t else s)

end Built

namespace Node

def tag : Node → Tag
  | .scalar t _ => t
  | .sequence t _ => t
  | .mapping t _ => t

mutual

def text : Node → Except Flaw String
  | .scalar _ s => .ok s
  | .sequence _ _ => .error .malformed
  | .mapping _ pairs => textOfPairs pairs

def textOfPairs : List (Node × Node) → Except Flaw String
  | [] => .error .malformed
  | (k, v) :: rest => if k.tag = .value then v.text else textOfPairs rest

end

def isCollectionTag : Tag → Bool
  | .sequence | .mapping | .orderedMap | .pairs | .set => true
  | _ => false

def scalar? (n : Node) : Except Flaw Scalar :=
  match Content.reader? n.tag with
  | none => .error .malformed
  | some read => do read (← n.text)

def plainKey : Node → Node
  | .scalar t s => .scalar (if t = .value then .text else t) s
  | .sequence t items => .sequence (if t = .value then .text else t) items
  | .mapping t pairs => .mapping (if t = .value then .text else t) pairs

mutual

def merged : Node → Except Flaw (List (Node × Node))
  | .mapping _ pairs => (fun (taken, own) => taken ++ own) <$> parted pairs
  | .sequence _ items => mergedItems items
  | .scalar _ _ => .error .malformed

def mergedItems : List Node → Except Flaw (List (Node × Node))
  | [] => .ok []
  | .mapping _ pairs :: rest => do
      let (taken, own) ← parted pairs
      return (← mergedItems rest) ++ (taken ++ own)
  | _ :: _ => .error .malformed

def parted : List (Node × Node) → Except Flaw (List (Node × Node) × List (Node × Node))
  | [] => .ok ([], [])
  | (k, v) :: rest =>
      if k.tag = .merge then do
        let first ← merged v
        let (taken, own) ← parted rest
        return (first ++ taken, own)
      else do
        let (taken, own) ← parted rest
        return (taken, (k.plainKey, v) :: own)

end

def flattened (pairs : List (Node × Node)) : Except Flaw (List (Node × Node)) :=
  (fun (taken, own) => taken ++ own) <$> parted pairs

def keyAt (depth : Nat) (k : Node) : Built Scalar := Built.at_ depth k.scalar?

def pairsOf : Node → Except Flaw (List (Node × Node))
  | .mapping _ pairs => flattened pairs
  | _ => .error .malformed

def itemsOf : Node → Except Flaw (List Node)
  | .sequence _ items => .ok items
  | _ => .error .malformed

def onlyPair : Node → Except Flaw (Node × Node)
  | .mapping _ [pair] => .ok pair
  | _ => .error .malformed

-- `depth` counts the collections around a node. Merged nodes are no parts of the node that takes
-- them in, so the recursion is on what is left of the height.
def build : Nat → Nat → Node → Built Datum
  | 0, depth, n => Built.at_ depth (.scalar <$> n.scalar?)
  | height + 1, depth, n =>
      let inner := build height (depth + 1)
      let pair (p : Node × Node) : Built Datum :=
        Built.both .pair (inner p.1) (inner p.2)
      match n.tag with
      | .sequence => do
          let items ← Built.at_ (depth + 1) n.itemsOf
          .list <$> items.foldr (fun i rest => Built.both List.cons (inner i) rest) (.ok [])
      | .orderedMap | .pairs => do
          let items ← Built.at_ (depth + 1) n.itemsOf
          let entry (i : Node) : Built Datum := do pair (← Built.at_ (depth + 1) i.onlyPair)
          .list <$> items.foldr (fun i rest => Built.both List.cons (entry i) rest) (.ok [])
      | .mapping => do
          let pairs ← Built.at_ (depth + 1) n.pairsOf
          let entry (p : Node × Node) : Built (Scalar × Datum) :=
            Built.both Prod.mk (keyAt (depth + 1) p.1) (inner p.2)
          let entries ← pairs.foldr (fun p rest => Built.both List.cons (entry p) rest) (.ok [])
          return .map (Entries.ofList entries)
      | .set => do
          let pairs ← Built.at_ (depth + 1) n.pairsOf
          let entry (p : Node × Node) : Built (Scalar × Datum) :=
            Built.both Prod.mk (keyAt (depth + 1) p.1) (inner p.2)
          let entries ← pairs.foldr (fun p rest => Built.both List.cons (entry p) rest) (.ok [])
          return .set ((Entries.ofList entries).map Prod.fst)
      | _ => Built.at_ depth (.scalar <$> n.scalar?)

mutual

def height : Node → Nat
  | .scalar _ _ => 0
  | .sequence _ items => heightOfItems items + 1
  | .mapping _ pairs => heightOfPairs pairs + 1

def heightOfItems : List Node → Nat
  | [] => 0
  | n :: rest => max n.height (heightOfItems rest)

def heightOfPairs : List (Node × Node) → Nat
  | [] => 0
  | (k, v) :: rest => max (max k.height v.height) (heightOfPairs rest)

end

def datum (n : Node) : Except Flaw Datum := (build n.height 0 n).mapError Trouble.flaw

end Node

def load (text : List Char) : Except Flaw Datum := do
  match ← Node.ofText? text with
  | none => return .null
  | some n => n.datum

end Formulary.Yaml
