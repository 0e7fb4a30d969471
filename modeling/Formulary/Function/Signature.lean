import Formulary.Fault
import Formulary.Issue
import Formulary.Value

set_option autoImplicit false

namespace Formulary

structure Parameter where
  name : String
  type : TypeTag
  variadic : Bool := false
deriving Repr, DecidableEq

def Parameter.admitsErrors (p : Parameter) : Bool := p.type == .all

abbrev Body := List Value → Except Fault Value

structure Signature where
  name : String
  parameters : List Parameter
  returns : TypeTag
  body : Body

inductive SignatureError where
  | emptyName
  | repeatedNames (function : String) (names : List String)
  | variadicNotLast (function parameter : String)
  | duplicate (function : String)
deriving Repr, DecidableEq

def SignatureError.message : SignatureError → String
  | .emptyName => "Function name must not be empty"
  | .repeatedNames function names =>
      function ++ ": duplicate parameter names [" ++ ", ".intercalate (names.map Text.quoted) ++ "]"
  | .variadicNotLast function parameter =>
      function ++ ": variadic parameter " ++ Text.quoted parameter ++ " must be last"
  | .duplicate function => "Duplicate function: " ++ function

namespace Signature

def make (name : String) (parameters : List Parameter) (returns : TypeTag) (body : Body) :
    Except SignatureError Signature :=
  if name = "" then .error .emptyName
  else
    let canonical := Text.upper name
    let names := parameters.map Parameter.name
    if ¬ names.Nodup then .error (.repeatedNames canonical names)
    else
      match parameters.dropLast.find? Parameter.variadic with
      | some p => .error (.variadicNotLast canonical p.name)
      | none => .ok ⟨canonical, parameters, returns, body⟩

def declare (name : String) (parameters : List Parameter) (returns : String) (body : Body) :
    Except (SignatureError ⊕ List Issue) Signature :=
  if name = "" then .error (.inl .emptyName)
  else
    match TypeTag.ofText? returns with
    | none => .error (.inr [⟨["returns"], .notListed (TypeTag.every.map TypeTag.text)⟩])
    | some type => (make name parameters type body).mapError .inl

def arity (s : Signature) : Nat := s.parameters.length

def isVariadic (s : Signature) : Bool := (s.parameters.getLast?.map Parameter.variadic).getD false

def parameterFor (s : Signature) (position : Nat) : Option Parameter :=
  match s.parameters[position]? with
  | some p => some p
  | none => if s.isVariadic then s.parameters.getLast? else none

-- Negative positions count from the end; `none` lies before the first parameter.
def parameterAt? (s : Signature) : Int → Option (Option Parameter)
  | .ofNat position => some (s.parameterFor position)
  | .negSucc back =>
      if back < s.arity then some s.parameters.reverse[back]? else none

def admitsErrorAt (s : Signature) (position : Nat) : Bool :=
  ((s.parameterFor position).map Parameter.admitsErrors).getD false

def describe (s : Signature) : String :=
  let shown (p : Parameter) : String :=
    p.name ++ ": " ++ p.type.text ++ if p.variadic then "..." else ""
  s.name ++ "(" ++ ", ".intercalate (s.parameters.map shown) ++ ") -> " ++ s.returns.text

end Signature

structure Catalog where
  signatures : List Signature

namespace Catalog

def addTo (known : List Signature) : List Signature → Except SignatureError (List Signature)
  | [] => .ok known
  | s :: rest =>
      if (known.map Signature.name).contains s.name then .error (.duplicate s.name)
      else addTo (known ++ [s]) rest

def make (signatures : List Signature) : Except SignatureError Catalog :=
  (addTo [] signatures).map Catalog.mk

def find? (c : Catalog) (name : String) : Option Signature :=
  let canonical := Text.upper name
  c.signatures.find? (·.name == canonical)

def demand (c : Catalog) (name : String) : Except String Signature :=
  match c.find? name with
  | some s => .ok s
  | none => .error name

def names (c : Catalog) : List String := c.signatures.map Signature.name

def contains (c : Catalog) (name : String) : Bool := c.names.contains (Text.upper name)

def size (c : Catalog) : Nat := c.signatures.length

end Catalog

end Formulary
