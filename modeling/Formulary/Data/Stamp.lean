import Formulary.Data.Datum
import Formulary.Decimal.Numeral

set_option autoImplicit false

namespace Formulary

inductive Zone where
  | universal
  | ahead (hours minutes : Nat)
  | behind (hours minutes : Nat)
deriving Repr, DecidableEq

structure Clock where
  hour : Nat
  minute : Nat
  second : Nat
  fraction : List Char
  zone : Option Zone
deriving Repr, DecidableEq

structure Stamp where
  year : Nat
  month : List Char
  day : List Char
  clock : Option Clock
deriving Repr, DecidableEq

namespace Stamp

open Numeral Text

def isBlank (c : Char) : Bool := c == ' ' || c == '\t'

def oneOrTwo? : List Char → Option (List Char × List Char)
  | a :: b :: cs =>
      if isAsciiDigit a && isAsciiDigit b then some ([a, b], cs)
      else if isAsciiDigit a then some ([a], b :: cs)
      else none
  | [a] => if isAsciiDigit a then some ([a], []) else none
  | [] => none

def two? : List Char → Option (Nat × List Char)
  | a :: b :: cs =>
      if isAsciiDigit a && isAsciiDigit b then some (natOf [a, b], cs) else none
  | _ => none

def after? (mark : Char) : List Char → Option (List Char)
  | c :: cs => if c = mark then some cs else none
  | [] => none

def offset? (cs : List Char) : Option (Nat × Nat) := do
  let (hours, rest) ← oneOrTwo? cs
  match rest with
  | [] => some (natOf hours, 0)
  | _ =>
      let (minutes, rest) ← two? (← after? ':' rest)
      if rest = [] then some (natOf hours, minutes) else none

def zone? (cs : List Char) : Option (Option Zone) :=
  match cs, cs.dropWhile isBlank with
  | [], _ => some none
  | _, ['Z'] => some (some .universal)
  | _, '+' :: rest => (offset? rest).map fun z => some (.ahead z.1 z.2)
  | _, '-' :: rest => (offset? rest).map fun z => some (.behind z.1 z.2)
  | _, _ => none

def clock? (cs : List Char) : Option Clock := do
  let (hour, rest) ← oneOrTwo? cs
  let (minute, rest) ← two? (← after? ':' rest)
  let (second, rest) ← two? (← after? ':' rest)
  let (fraction, rest) := match rest with
    | '.' :: rest => (rest.takeWhile isAsciiDigit, rest.dropWhile isAsciiDigit)
    | _ => ([], rest)
  return ⟨natOf hour, minute, second, fraction, ← zone? rest⟩

def read? (cs : List Char) : Option Stamp := do
  let year := cs.take 4
  if year.length ≠ 4 ∨ ¬ year.all isAsciiDigit then none
  let (month, rest) ← oneOrTwo? (← after? '-' (cs.drop 4))
  let (day, rest) ← oneOrTwo? (← after? '-' rest)
  match rest with
  | [] => some ⟨natOf year, month, day, none⟩
  | c :: cs =>
      let clock := if c = 'T' ∨ c = 't' then cs else cs.dropWhile isBlank
      if c = 'T' ∨ c = 't' ∨ isBlank c then
        some ⟨natOf year, month, day, some (← clock? clock)⟩
      else none

def isFull (s : Stamp) : Bool :=
  s.clock.isSome || (s.month.length == 2 && s.day.length == 2)

def seconds? : Zone → Option Int
  | .universal => some 0
  | .ahead h m => if 60 * h + m < 1440 then some (60 * (60 * h + m) : Nat) else none
  | .behind h m => if 60 * h + m < 1440 then some (-(60 * (60 * h + m) : Nat)) else none

def micros (fraction : List Char) : Nat :=
  let ds := fraction.take 6
  natOf (ds ++ List.replicate (6 - ds.length) '0')

def scalar? (s : Stamp) : Option Scalar := do
  let date ← Date.make? s.year (natOf s.month) (natOf s.day)
  match s.clock with
  | none => some (.date date)
  | some c =>
      let offset ← match c.zone with
        | none => some none
        | some z => (seconds? z).map some
      if c.hour < 24 ∧ c.minute < 60 ∧ c.second < 60 then
        let clock := (3600 * c.hour + 60 * c.minute + c.second) * Moment.microsPerSecond
        some (.moment ⟨date, clock + micros c.fraction, offset⟩)
      else none

end Stamp

end Formulary
