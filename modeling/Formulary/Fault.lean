import Formulary.Text.Quoted
import Formulary.Token

set_option autoImplicit false

namespace Formulary

inductive Fault where
  | unexpected (expected : Separator) (found : Option Token)
  | unordered
  | unconvertible (kind : String)
  -- An integer beyond the range of doubles.
  | tooLarge
  | notBoolean (text : String)
  -- A function body took an argument that was not given,
  | missingArgument
  -- or had too few of them to share out.
  | shortArguments
  | notNumeral
  | dividedByZero
  -- Zero to a negative power, or no real power.
  | outOfDomain
  | outOfRange
deriving Repr, DecidableEq

namespace Fault

def unexpectedText (expected found : String) (position : Int) : String :=
  let shown := if found = "" then "end of input" else Text.quoted found
  "Expected " ++ Text.quoted expected ++ ", found " ++ shown ++ " at token " ++ toString position

def unconvertibleText (kind : String) : String := "Cannot convert " ++ kind ++ " to a formula value"

def notBooleanText (text : String) : String := "Cannot read " ++ text ++ " as a boolean"

def message? (position : Nat) : Fault → Option String
  | .unexpected expected found =>
      some (unexpectedText expected.text ((found.map Token.text).getD "") position)
  | .unconvertible kind => some (unconvertibleText kind)
  | .notBoolean text => some (notBooleanText text)
  | .unordered | .tooLarge | .missingArgument | .shortArguments | .notNumeral | .dividedByZero
  | .outOfDomain | .outOfRange => none

end Fault

end Formulary
