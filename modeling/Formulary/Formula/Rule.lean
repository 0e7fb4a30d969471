import Formulary.Data.Datum
import Formulary.Formula.Operator
import Formulary.Function.Catalog

set_option autoImplicit false

namespace Formulary

abbrev Scope := List (String × Datum)

/-- A name without a binding, or bound to nothing, is an error value and no fault. -/
def Scope.read (scope : Scope) (name : String) : Except Fault Value :=
  match scope.lookup name with
  | none => .ok .nameError
  | some d => if d.isNull then .ok .nameError else d.toValue

structure Setting where
  scope : Scope
  -- Leaves the rest of a call unread once its result is an error.
  legacy : Bool

/-- What a run moves along. Beside the tokens that are left it may keep notes of its own, and it is
told when legacy mode leaves a call unread. -/
class Tape (σ : Type) where
  rest : σ → List Token
  move : (List Token → List Token) → σ → σ
  cut : σ → σ
  rest_move : ∀ f s, rest (move f s) = f (rest s)
  rest_cut : ∀ s, rest (cut s) = rest s

attribute [simp] Tape.rest_move Tape.rest_cut

instance : Tape (List Token) where
  rest ts := ts
  move f ts := f ts
  cut ts := ts
  rest_move _ _ := rfl
  rest_cut _ := rfl

-- A fault keeps the tape as it was.
abbrev Cursor (σ : Type) := EStateM Fault σ

namespace Rule

variable {σ : Type} [Tape σ]

def lift {α : Type} : Except Fault α → Cursor σ α
  | .ok a => pure a
  | .error f => throw f

def peek : Cursor σ (Option Token) := return (Tape.rest (← get)).head?

def atMark (s : Separator) : Cursor σ Bool := return (← peek) == some (.mark s)

def size : Cursor σ Nat := return (Tape.rest (← get)).length

def skipSpaces (ts : List Token) : List Token := ts.dropWhile (· == .mark .space)

def advance : Cursor σ Unit := modify (Tape.move fun ts => skipSpaces ts.tail)

def expect (s : Separator) : Cursor σ Unit := do
  let found ← peek
  if found = some (.mark s) then advance else throw (.unexpected s found)

def join {α : Type} (combine : α → Value → Value → Except Fault Value) (op : α) (a b : Value) :
    Except Fault Value :=
  if a.isError then .ok a else if b.isError then .ok b else combine op a b

/-- Every turn reads an operator, so as many turns as there are tokens are enough. -/
def chain {α : Type} (operand : Cursor σ Value) (operator? : Token → Option α)
    (combine : α → Value → Value → Except Fault Value) : Nat → Value → Cursor σ Value
  | 0, a => pure a
  | turns + 1, a => do
      match (← peek).bind operator? with
      | none => pure a
      | some op =>
          advance
          let b ← operand
          chain operand operator? combine turns (← lift (join combine op a b))

def tier {α : Type} (operator? : Token → Option α)
    (combine : α → Value → Value → Except Fault Value) (operand : Cursor σ Value) :
    Cursor σ Value := do
  let a ← operand
  chain operand operator? combine (← size) a

def powerChain (factor : Cursor σ Value) : Nat → Cursor σ Value
  | 0 => factor
  | turns + 1 => do
      let a ← factor
      if ← atMark .caret then
        advance
        let b ← powerChain factor turns
        lift (join Operator.raise () a b)
      else return a

def power (factor : Cursor σ Value) : Cursor σ Value := do powerChain factor (← size)

def signChain (atom : Cursor σ Value) : Nat → Cursor σ Value
  | 0 => atom
  | turns + 1 => do
      match (← peek).bind Operator.additive? with
      | some sign =>
          advance
          return Operator.signed sign (← signChain atom turns)
      | none => atom

def factor (atom : Cursor σ Value) : Cursor σ Value := do signChain atom (← size)

def bracket (inner : Cursor σ Value) : Cursor σ Value := do
  advance
  let v ← inner
  expect .rightBracket
  return v

/-- Between the quotes every token stands for its text, spaces too. -/
def quotation : Cursor σ Value := do
  modify (Tape.move List.tail)
  let ts := Tape.rest (← get)
  modify (Tape.move fun ts => ts.dropWhile (· != .mark .quote))
  expect .quote
  return .string (String.join ((ts.takeWhile (· != .mark .quote)).map Token.text))

inductive Arguments where
  | complete (args : List Value) (refused : Option Value)
  | abandoned (error : Value)

-- One argument more than there are tokens, since a missing one reads none.
def arguments (inner : Cursor σ Value) (legacy : Bool) (admitsError : Nat → Bool) :
    Nat → List Value → Option Value → Cursor σ Arguments
  | 0, args, refused => return .complete args refused
  | turns + 1, args, refused => do
      let arg ← inner
      let refusedNow := arg.isError && !admitsError args.length && refused.isNone
      if refusedNow && legacy then return .abandoned arg
      else
        let refused := if refusedNow then some arg else refused
        if ← atMark .comma then
          advance
          arguments inner legacy admitsError turns (args ++ [arg]) refused
        else return .complete (args ++ [arg]) refused

def answer (signature? : Option Signature) (args : List Value) (refused : Option Value) :
    Except Fault Value :=
  match signature?, refused with
  | none, _ => .ok .nameError
  | some _, some e => .ok e
  | some s, none => if args.length < s.arity then .ok .valueError else s.body args

def listed (inner : Cursor σ Value) (legacy : Bool) (admitsError : Nat → Bool) :
    Cursor σ Arguments := do
  if ← atMark .rightBracket then return .complete [] none
  else arguments inner legacy admitsError ((← size) + 1) [] none

def surface (v : Value) : Cursor σ Value := do
  modify Tape.cut
  return v

def call (legacy : Bool) (inner : Cursor σ Value) (name : String) : Cursor σ Value := do
  let signature? := Function.builtIn.find? name
  if signature?.isNone && legacy then surface .nameError
  else
    advance
    let admitsError (position : Nat) : Bool :=
      (signature?.map (·.admitsErrorAt position)).getD false
    match ← listed inner legacy admitsError with
    | .abandoned e => surface e
    | .complete args refused =>
        expect .rightBracket
        lift (answer signature? args refused)

def identifier (setting : Setting) (inner : Cursor σ Value) (name : String) : Cursor σ Value := do
  advance
  if ← atMark .leftBracket then call setting.legacy inner name
  else lift (setting.scope.read name)

def startsNumber (w : String) : Bool :=
  match w.toList with
  | c :: _ => Text.isAsciiDigit c || c == '.'
  | [] => false

def hasNameStart (w : String) : Bool := w.toList.any fun c => Text.isAsciiLetter c || c == '_'

def numeral (w : String) : Except Fault Value :=
  if Numeral.isLiteral w then (Arithmetic.read w.toList).map .number else .ok .numeralError

def word (setting : Setting) (inner : Cursor σ Value) (w : String) : Cursor σ Value :=
  if startsNumber w then do
    advance
    lift (numeral w)
  else
    match Token.boolean? w with
    | some b => do
        advance
        return .boolean b
    | none => if hasNameStart w then identifier setting inner w else return .tokenError

-- A token that starts no operand is left where it is.
def atom (setting : Setting) (inner : Cursor σ Value) : Cursor σ Value := do
  match ← peek with
  | some (.mark .leftBracket) => bracket inner
  | some (.mark .quote) => quotation
  | some (.word w) => word setting inner w
  | _ => return .tokenError

def comparison (setting : Setting) (inner : Cursor σ Value) : Cursor σ Value :=
  tier Comparison.ofToken? Comparison.apply <|
  tier Operator.isConcat? Operator.concat <|
  tier Operator.additive? Operator.add <|
  tier Operator.multiplicative? Operator.multiply <|
  power (factor (atom setting inner))

/-- Brackets and calls take a token each, so they nest no deeper than there are tokens. -/
def formula (setting : Setting) : Nat → Cursor σ Value
  | 0 => return .tokenError
  | depth + 1 => comparison setting (formula setting depth)

end Rule

structure Run where
  outcome : Except Fault Value
  position : Nat

namespace Run

def ofTokens (setting : Setting) (ts : List Token) : Run :=
  match (Rule.formula setting ts.length).run ts with
  | .ok v rest => ⟨.ok v, ts.length - rest.length⟩
  | .error f rest => ⟨.error f, ts.length - rest.length⟩

def value (r : Run) (size : Nat) : Value :=
  match r.outcome with
  | .ok v => if r.position < size then .tokenError else v
  | .error _ => .valueError

end Run

def evaluate (setting : Setting) (expression : String) : Value :=
  match Token.tokens expression with
  | [] => .string ""
  | ts => (Run.ofTokens setting ts).value ts.length

end Formulary
