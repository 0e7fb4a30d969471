import Formulary.Text.Blank
import Formulary.Text.Case

set_option autoImplicit false

namespace Formulary

inductive Separator where
  | lessEqual
  | notEqual
  | greaterEqual
  | less
  | greater
  | equal
  | leftBracket
  | rightBracket
  | comma
  | quote
  | apostrophe
  | plus
  | minus
  | times
  | divide
  | ampersand
  | caret
  | space
deriving Repr, DecidableEq

def Separator.text : Separator → String
  | .lessEqual => "<="
  | .notEqual => "<>"
  | .greaterEqual => ">="
  | .less => "<"
  | .greater => ">"
  | .equal => "="
  | .leftBracket => "("
  | .rightBracket => ")"
  | .comma => ","
  | .quote => "\""
  | .apostrophe => "'"
  | .plus => "+"
  | .minus => "-"
  | .times => "*"
  | .divide => "/"
  | .ampersand => "&"
  | .caret => "^"
  | .space => " "

def Separator.tiers : List (List Separator) := [
  [.equal, .notEqual, .less, .lessEqual, .greater, .greaterEqual],
  [.ampersand], [.plus, .minus], [.times, .divide], [.caret]]

def Separator.signs : List Separator := [.plus, .minus]

def Separator.pairs : List Separator := [.lessEqual, .notEqual, .greaterEqual]

def Separator.ofChar? : Char → Option Separator
  | '<' => some .less
  | '>' => some .greater
  | '=' => some .equal
  | '(' => some .leftBracket
  | ')' => some .rightBracket
  | ',' => some .comma
  | '"' => some .quote
  | '\'' => some .apostrophe
  | '+' => some .plus
  | '-' => some .minus
  | '*' => some .times
  | '/' => some .divide
  | '&' => some .ampersand
  | '^' => some .caret
  | ' ' => some .space
  | _ => none

inductive Token where
  | mark (separator : Separator)
  | word (text : String)
deriving Repr, DecidableEq

namespace Token

def text : Token → String
  | .mark s => s.text
  | .word w => w

def ofReversed : List Char → List Token
  | [] => []
  | cs => [.word (String.ofList cs.reverse)]

/-- Two-character separators win over their first character. -/
def split : List Char → List Char → List Token
  | read, [] => ofReversed read
  | read, '<' :: '=' :: cs => ofReversed read ++ .mark .lessEqual :: split [] cs
  | read, '<' :: '>' :: cs => ofReversed read ++ .mark .notEqual :: split [] cs
  | read, '>' :: '=' :: cs => ofReversed read ++ .mark .greaterEqual :: split [] cs
  | read, c :: cs =>
      match Separator.ofChar? c with
      | some s => ofReversed read ++ .mark s :: split [] cs
      | none => split (c :: read) cs

def normalized (expression : String) : List Char :=
  Text.squeeze (Text.trim expression.toList)

def tokens (expression : String) : List Token := split [] (normalized expression)

def boolean? (word : String) : Option Bool :=
  let lowered := Text.lower word
  if lowered = "true" then some true
  else if lowered = "false" then some false
  else none

def isKeyword (word : String) : Bool := (boolean? word).isSome

end Token

end Formulary
