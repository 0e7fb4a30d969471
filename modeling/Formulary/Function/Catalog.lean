import Formulary.Arithmetic
import Formulary.Function.Signature

set_option autoImplicit false

namespace Formulary.Function

def numbers (args : List Value) : List Float := args.map Value.asNumber

-- Keeps the first of equals, so that the sign of zero is the first one's.
def largest (x : Float) (xs : List Float) : Float := xs.foldl (fun m y => if m < y then y else m) x

def smallest (x : Float) (xs : List Float) : Float := xs.foldl (fun m y => if y < m then y else m) x

def choose (pick : Float → List Float → Float) : Body := fun args =>
  match numbers args with
  | [] => .error .shortArguments
  | x :: xs =>
      .ok (.number (if (x :: xs).any Float.isNaN then Numeral.notANumber else pick x xs))

def total : Body := fun args => .ok (.number (Arithmetic.sum (numbers args)))

def product : Body := fun args => .ok (.number ((numbers args).foldl (· * ·) 1.0))

def concat : Body := fun args => .ok (.string (String.join (args.map Value.asText)))

def truth (v : Value) : Except Fault Bool := v.asBoolean.mapError Fault.notBoolean

def conjunction : List Value → Except Fault Bool
  | [] => .ok true
  | v :: rest => do if ← truth v then conjunction rest else return false

def disjunction : List Value → Except Fault Bool
  | [] => .ok false
  | v :: rest => do if ← truth v then return true else disjunction rest

def onFirst (f : Value → Except Fault Value) : Body
  | [] => .error .missingArgument
  | v :: _ => f v

def negation : Body := onFirst fun v => (truth v).map fun b => .boolean !b

def pi : Float := Float.ofBits 0x400921FB54442D18

def numberOf : Value → Except Fault Value
  | .number x => .ok (.number x)
  | .string s => (Arithmetic.leading s).map .number
  | .boolean _ | .error _ => .ok .valueError

def isNotANumber : Value → Value
  | .number x => .boolean x.isNaN
  | _ => .valueError

def conditional : Body
  | condition :: whenTrue :: whenFalse :: _ => do
      if ← truth condition then return whenTrue else return whenFalse
  | _ => .error .shortArguments

def recovered : Body
  | v :: fallback :: _ => .ok (if v.isError then fallback else v)
  | _ => .error .shortArguments

def repeated (type : TypeTag) : List Parameter := [⟨"value", type, true⟩]

def single (type : TypeTag) : List Parameter := [⟨"value", type, false⟩]

def builtIn : Catalog := ⟨[
  ⟨"MAX", repeated .number, .number, choose largest⟩,
  ⟨"MIN", repeated .number, .number, choose smallest⟩,
  ⟨"SUM", repeated .number, .number, total⟩,
  ⟨"PROD", repeated .number, .number, product⟩,
  ⟨"CONCAT", repeated .string, .string, concat⟩,
  ⟨"AND", repeated .boolean, .boolean, fun args => (conjunction args).map .boolean⟩,
  ⟨"OR", repeated .boolean, .boolean, fun args => (disjunction args).map .boolean⟩,
  ⟨"NOT", single .boolean, .boolean, negation⟩,
  ⟨"PI", [], .number, fun _ => .ok (.number pi)⟩,
  ⟨"VALUE", single .string, .number, onFirst numberOf⟩,
  ⟨"ISNAN", single .number, .boolean, onFirst fun v => .ok (isNotANumber v)⟩,
  ⟨"IF", [⟨"condition", .any, false⟩, ⟨"if_true", .any, false⟩, ⟨"if_false", .any, false⟩], .any,
    conditional⟩,
  ⟨"ISERROR", single .all, .boolean, onFirst fun v => .ok (.boolean v.isError)⟩,
  ⟨"IFERROR", [⟨"value", .all, false⟩, ⟨"value_if_error", .any, false⟩], .any, recovered⟩]⟩

end Formulary.Function
