import Formulary.Decimal.Layout

set_option autoImplicit false

namespace Formulary

structure Date where
  year : Nat
  month : Nat
  day : Nat
deriving Repr, DecidableEq

structure Moment where
  date : Date
  -- Microseconds since midnight.
  clock : Nat
  -- Seconds ahead of universal time.
  offset : Option Int
deriving Repr, DecidableEq

namespace Date

def isLeap (year : Nat) : Bool := year % 4 == 0 && (year % 100 != 0 || year % 400 == 0)

def daysIn (year month : Nat) : Nat :=
  match month with
  | 2 => if isLeap year then 29 else 28
  | 4 | 6 | 9 | 11 => 30
  | _ => 31

def make? (year month day : Nat) : Option Date :=
  if 1 ≤ year ∧ year ≤ 9999 ∧ 1 ≤ month ∧ month ≤ 12 ∧ 1 ≤ day ∧ day ≤ daysIn year month then
    some ⟨year, month, day⟩
  else none

def dayNumber (d : Date) : Nat :=
  let years := d.year - 1
  let months := (List.range (d.month - 1)).map fun m => daysIn d.year (m + 1)
  365 * years + years / 4 - years / 100 + years / 400 + months.foldl (· + ·) 0 + d.day

def text (d : Date) : String :=
  String.ofList (NumberStyle.padded 4 d.year ++ '-' :: NumberStyle.padded 2 d.month ++
    '-' :: NumberStyle.padded 2 d.day)

end Date

namespace Moment

def microsPerSecond : Nat := 1000000

def twoDigits (n : Nat) : String := String.ofList (NumberStyle.padded 2 n)

def offsetText (seconds : Int) : String :=
  let n := seconds.natAbs
  let base := (if seconds < 0 then "-" else "+") ++ twoDigits (n / 3600) ++ ":" ++
    twoDigits (n / 60 % 60)
  if n % 60 = 0 then base else base ++ ":" ++ twoDigits (n % 60)

def instant (m : Moment) (offset : Int) : Int :=
  (m.date.dayNumber * 86400 - offset) * microsPerSecond + m.clock

-- A clock whose distance from universal time is unknown agrees only with such another.
def same (m n : Moment) : Bool :=
  match m.offset, n.offset with
  | none, none => m == n
  | some a, some b => m.instant a == n.instant b
  | _, _ => false

def text (m : Moment) : String :=
  let seconds := m.clock / microsPerSecond
  let micros := m.clock % microsPerSecond
  let clock := twoDigits (seconds / 3600) ++ ":" ++ twoDigits (seconds / 60 % 60) ++ ":" ++
    twoDigits (seconds % 60)
  let fraction := if micros = 0 then "" else "." ++ String.ofList (NumberStyle.padded 6 micros)
  m.date.text ++ " " ++ clock ++ fraction ++ (m.offset.map offsetText).getD ""

end Moment

end Formulary
