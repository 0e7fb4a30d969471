import Formulary.Decimal.Layout
import Formulary.Decimal.Numeral
import Formulary.Text.Case
import Formulary.Text.Quoted

set_option autoImplicit false

namespace Formulary

/-- `any` and `all` constrain parameters: `any` refuses errors, `all` admits them. -/
inductive TypeTag where
  | number
  | string
  | boolean
  | error
  | any
  | all
deriving Repr, DecidableEq

namespace TypeTag

def text : TypeTag → String
  | .number => "number"
  | .string => "string"
  | .boolean => "boolean"
  | .error => "error"
  | .any => "any"
  | .all => "all"

def every : List TypeTag := [.number, .string, .boolean, .error, .any, .all]

def ofText? (s : String) : Option TypeTag := every.find? (·.text == s)

def isConstraint : TypeTag → Bool
  | .any | .all => true
  | _ => false

end TypeTag

/-- What a formula evaluates to. An error holds its whole text, such as `#NAME`. -/
inductive Value where
  | number (x : Float)
  | string (s : String)
  | boolean (b : Bool)
  | error (text : String)

namespace Value

def errorOf (code : String) : Value := .error ("#" ++ Text.upper code)

def tokenError : Value := .error "#TOKEN"
def valueError : Value := .error "#VALUE"
def nameError : Value := .error "#NAME"
def numeralError : Value := .error "#NUM?"
def divisionError : Value := .error "#DIV/0"
def unavailable : Value := .error "#N/A"

def tag : Value → TypeTag
  | .number _ => .number
  | .string _ => .string
  | .boolean _ => .boolean
  | .error _ => .error

def isError : Value → Bool
  | .error _ => true
  | _ => false

@[simp] theorem isError_number (x : Float) : (number x).isError = false := rfl
@[simp] theorem isError_string (s : String) : (string s).isError = false := rfl
@[simp] theorem isError_boolean (b : Bool) : (boolean b).isError = false := rfl
@[simp] theorem isError_error (s : String) : (error s).isError = true := rfl

def asText : Value → String
  | .number x => formatNumber x
  | .string s => s
  | .boolean b => if b then "TRUE" else "FALSE"
  | .error s => s

def asNumber : Value → Float
  | .number x => x
  | .boolean b => if b then 1.0 else 0.0
  | .string _ | .error _ => Numeral.notANumber

def asBoolean : Value → Except String Bool
  | .number x => .ok (x != 0.0)
  | .string s => .ok (s != "")
  | .boolean b => .ok b
  | .error s => .error s

def toText (v : Value) : Value := .string v.asText

def toNumber (v : Value) : Value :=
  if v.asNumber.isNaN then unavailable else .number v.asNumber

def toBoolean (v : Value) : Value :=
  match v.asBoolean with
  | .ok b => .boolean b
  | .error _ => valueError

/-- Equal values agree in type as well as in content; `NaN` equals nothing. -/
def same : Value → Value → Bool
  | .number x, .number y => x == y
  | .string s, .string t => s == t
  | .boolean a, .boolean b => a == b
  | .error s, .error t => s == t
  | _, _ => false

end Value

end Formulary
