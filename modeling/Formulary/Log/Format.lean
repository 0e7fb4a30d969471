import Formulary.Decimal.Numeral
import Formulary.Log.Slot
import Formulary.Text.Digit
import Formulary.Text.WordTable

set_option autoImplicit false

namespace Formulary.Log

inductive Part where
  | plain (c : Char)
  | slot (s : Slot)

namespace Format

def isFlag (c : Char) : Bool := ['#', '0', '+', ' ', '-'].contains c

def isWord (c : Char) : Bool :=
  Text.isAsciiDigit c || Text.isAsciiLetter c || c == '_' ||
    (0x80 ≤ c.toNat && Text.within Text.wordSpans c)

-- In either case, with the letters that fold to `i` and `s`.
def kinds : List Char := "diouxefgcrsa%DIOUXEFGCRSAİıſ".toList

def measure (isDigit : Char → Bool) (cs : List Char) : List Char × List Char :=
  match cs with
  | '*' :: rest => (['*'], rest)
  | _ => (cs.takeWhile isDigit, cs.dropWhile isDigit)

def endsField (cs : List Char) : Bool :=
  let isDigit (c : Char) : Bool := (Text.decimalDigit? c).isSome
  let isEnd (cs : List Char) : Bool := cs.head?.any kinds.contains
  match (measure isDigit (cs.dropWhile isFlag)).2 with
  | '.' :: rest =>
      let (precision, rest) := measure isDigit rest
      !precision.isEmpty && isEnd rest
  | rest => isEnd rest

def fieldName? : List Char → Option String
  | '%' :: '(' :: cs =>
      match cs.takeWhile isWord, cs.dropWhile isWord with
      | c :: name, ')' :: rest => if endsField rest then some (String.ofList (c :: name)) else none
      | _, _ => none
  | _ => none

def fieldNames : List Char → List String
  | [] => []
  | c :: cs => (fieldName? (c :: cs)).toList ++ fieldNames cs

def usual : String := "%(message)s"

def orUsual (format : String) : String := if format = "" then usual else format

def isAccepted (format : String) : Bool := !(fieldNames (orUsual format).toList).isEmpty

def closing? : Nat → List Char → Option (List Char × List Char)
  | _, [] => none
  | 0, ')' :: cs => some ([], cs)
  | depth + 1, ')' :: cs => (closing? depth cs).map fun r => (')' :: r.1, r.2)
  | depth, '(' :: cs => (closing? (depth + 1) cs).map fun r => ('(' :: r.1, r.2)
  | depth, c :: cs => (closing? depth cs).map fun r => (c :: r.1, r.2)

def key? : List Char → Option (Option String × List Char)
  | '(' :: cs => (closing? 0 cs).map fun r => (some (String.ofList r.1), r.2)
  | cs => some (none, cs)

def measure? (limit : Nat) (cs : List Char) : Option (Measure × List Char) :=
  match measure Text.isAsciiDigit cs with
  | (['*'], rest) => some (.star, rest)
  | ([], rest) => some (.usual, rest)
  | (ds, rest) =>
      let n := Numeral.natOf ds
      if n < limit then some (.digits n, rest) else none

def precision? : List Char → Option (Measure × List Char)
  | '.' :: cs => do
      let (precision, rest) ← measure? Slot.precisionLimit cs
      some (if precision = .usual then .digits 0 else precision, rest)
  | cs => some (.usual, cs)

def withoutSize : List Char → List Char
  | 'h' :: cs | 'l' :: cs | 'L' :: cs => cs
  | cs => cs

def slot? (cs : List Char) : Option (Slot × List Char) := do
  let (key, rest) ← key? cs
  let (width, rest') ← measure? Slot.widthLimit (rest.dropWhile isFlag)
  let (precision, rest') ← precision? rest'
  match withoutSize rest' with
  | kind :: rest' => some (⟨key, rest.takeWhile isFlag, width, precision, kind⟩, rest')
  | [] => none

def parts? : Nat → List Char → Option (List Part)
  | 0, _ => some []
  | _, [] => some []
  | fuel + 1, '%' :: '%' :: cs => (parts? fuel cs).map (.plain '%' :: ·)
  | fuel + 1, '%' :: cs => do
      let (s, rest) ← slot? cs
      return .slot s :: (← parts? fuel rest)
  | fuel + 1, c :: cs => (parts? fuel cs).map (.plain c :: ·)

-- Without a key the first slot finds the whole message, and later ones find nothing.
def render? (fields : List (String × Field)) :
    Option Argument → List Part → Option (List Char)
  | _, [] => some []
  | given, .plain c :: rest => (render? fields given rest).map (c :: ·)
  | given, .slot s :: rest => do
      let given ← match s.key with
        | some name => (fields.lookup name).map fun f => some (.field f)
        | none => some given
      return (← s.show? given) ++ (← render? fields none rest)

def asksTime : List Char → Bool
  | [] => false
  | c :: cs => "%(asctime)".toList.isPrefixOf (c :: cs) || asksTime cs

def line? (format : String) (r : Record) : Option String := do
  let cs := (orUsual format).toList
  let fields := r.fields (asksTime cs)
  return String.ofList (← render? fields (some (.record fields)) (← parts? cs.length cs)) ++ "\n"

end Format

end Formulary.Log
