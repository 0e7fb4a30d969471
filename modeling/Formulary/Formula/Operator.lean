import Formulary.Arithmetic

set_option autoImplicit false

namespace Formulary

inductive Comparison where
  | equal
  | notEqual
  | less
  | lessEqual
  | greater
  | greaterEqual
deriving Repr, DecidableEq

namespace Comparison

def ofToken? : Token → Option Comparison
  | .mark .equal => some .equal
  | .mark .notEqual => some .notEqual
  | .mark .less => some .less
  | .mark .lessEqual => some .lessEqual
  | .mark .greater => some .greater
  | .mark .greaterEqual => some .greaterEqual
  | _ => none

def texts : Comparison → String → String → Bool
  | .equal, s, t => s == t
  | .notEqual, s, t => s != t
  | .less, s, t => s < t
  | .lessEqual, s, t => !(t < s)
  | .greater, s, t => t < s
  | .greaterEqual, s, t => !(s < t)

def numbers : Comparison → Float → Float → Bool
  | .equal, x, y => x == y
  | .notEqual, x, y => x != y
  | .less, x, y => x < y
  | .lessEqual, x, y => x ≤ y
  | .greater, x, y => y < x
  | .greaterEqual, x, y => y ≤ x

def textOf? : Value → Option String
  | .string s | .error s => some s
  | .number _ | .boolean _ => none

/-- Equality looks at the types as well; order looks at contents alone, where a truth value counts
as a number and text never meets a number. -/
def holds (c : Comparison) (a b : Value) : Except Fault Bool :=
  match c with
  | .equal => .ok (a.same b)
  | .notEqual => .ok (!a.same b)
  | c =>
      match textOf? a, textOf? b with
      | some s, some t => .ok (c.texts s t)
      | none, none => .ok (c.numbers a.asNumber b.asNumber)
      | _, _ => .error .unordered

def apply (c : Comparison) (a b : Value) : Except Fault Value := (c.holds a b).map .boolean

end Comparison

namespace Operator

def isConcat? : Token → Option Unit
  | .mark .ampersand => some ()
  | _ => none

def concat (_ : Unit) (a b : Value) : Except Fault Value := .ok (.string (a.asText ++ b.asText))

inductive Additive where
  | plus
  | minus
deriving Repr, DecidableEq

def additive? : Token → Option Additive
  | .mark .plus => some .plus
  | .mark .minus => some .minus
  | _ => none

def add (o : Additive) (a b : Value) : Except Fault Value :=
  match o with
  | .plus => .ok (.number (a.asNumber + b.asNumber))
  | .minus => .ok (.number (a.asNumber - b.asNumber))

inductive Multiplicative where
  | times
  | divide
deriving Repr, DecidableEq

def multiplicative? : Token → Option Multiplicative
  | .mark .times => some .times
  | .mark .divide => some .divide
  | _ => none

def multiply (o : Multiplicative) (a b : Value) : Except Fault Value :=
  match o with
  | .times => .ok (.number (a.asNumber * b.asNumber))
  | .divide =>
      if b.asNumber == 0.0 then .ok .divisionError
      else (Arithmetic.divide a.asNumber b.asNumber).map .number

-- Zero to a negative power is positive infinity whatever the sign of zero.
def power (base exponent : Float) : Except Fault Float :=
  match Arithmetic.raise base exponent with
  | .error .outOfRange => .ok (Numeral.infinity (base < 0.0 && Arithmetic.isOdd exponent))
  | .error .outOfDomain =>
      .ok (if base == 0.0 then Numeral.infinity false else Numeral.notANumber)
  | raised => raised

def raise (_ : Unit) (a b : Value) : Except Fault Value :=
  (power a.asNumber b.asNumber).map .number

def signed (sign : Additive) : Value → Value
  | .error s => .error s
  | .number x =>
      match sign with
      | .plus => .number x
      | .minus => .number (-x)
  | .string _ | .boolean _ => .valueError

end Operator

end Formulary
