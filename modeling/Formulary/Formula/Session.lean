import Formulary.Formula.Rule
import Formulary.Log.Level

set_option autoImplicit false

namespace Formulary

inductive Event where
  | failed (expression : String) (fault : Fault) (position : Nat) (debug : Bool)
  | timed (expression : String)

namespace Event

def level : Event → Level
  | .failed _ _ _ debug => if debug then .error else .debug
  | .timed _ => .info

def message (elapsed : String) : Event → String
  | .failed expression _ position debug =>
      "Evaluation of " ++ Text.quoted expression ++ " failed" ++
        if debug then " at token " ++ toString position else ""
  | .timed expression => "Evaluated " ++ Text.quoted expression ++ " in " ++ elapsed ++ " ms"

end Event

/-- The tokens of the last run in debug mode and how far it came. A scope with bindings is followed
as it changes, an empty one is forgotten. -/
structure Trail where
  tokens : List Token := []
  position : Nat := 0
  followsScope : Bool := false

namespace Trail

def current? (t : Trail) : Option Token := t.tokens[t.position]?

def atEnd (t : Trail) : Bool := t.tokens.length ≤ t.position

end Trail

structure Interpreter where
  debug : Bool
  legacy : Bool
  trail : Trail := {}

namespace Interpreter

def evaluate (i : Interpreter) (scope : Scope) (expression : String) :
    Interpreter × Value × List Event :=
  match Token.tokens expression with
  | [] =>
      let trail : Trail := if i.debug then { followsScope := !scope.isEmpty } else {}
      ({ i with trail := trail }, .string "", [])
  | ts =>
      let run := Run.ofTokens ⟨scope, i.legacy⟩ ts
      let trail : Trail := if i.debug then ⟨ts, run.position, !scope.isEmpty⟩ else {}
      let failures := match run.outcome with
        | .ok _ => []
        | .error f => [.failed expression f run.position i.debug]
      let timings := if i.debug then [.timed expression] else []
      ({ i with trail := trail }, run.value ts.length, failures ++ timings)

end Interpreter

structure Session where
  interpreter : Interpreter
  scope : Scope

def Scope.bind (scope : Scope) (name : String) (d : Datum) : Scope :=
  match scope with
  | [] => [(name, d)]
  | (n, old) :: rest => if n = name then (n, d) :: rest else (n, old) :: Scope.bind rest name d

def Scope.unbind (scope : Scope) (name : String) : Scope := scope.filter (·.1 != name)

def Scope.ofList (bindings : List (String × Datum)) : Scope :=
  bindings.foldl (fun scope b => scope.bind b.1 b.2) []

namespace Session

inductive Step where
  | evaluate (expression : String)
  | clear
  | setDebug (on : Bool)
  | setLegacy (on : Bool)
  | bind (name : String) (d : Datum)
  | unbind (name : String)

def step (s : Session) : Step → Session × Option Value × List Event
  | .evaluate expression =>
      let (i, v, events) := s.interpreter.evaluate s.scope expression
      ({ s with interpreter := i }, some v, events)
  | .clear => ({ s with interpreter := { s.interpreter with trail := {} } }, none, [])
  | .setDebug on => ({ s with interpreter := { s.interpreter with debug := on } }, none, [])
  | .setLegacy on => ({ s with interpreter := { s.interpreter with legacy := on } }, none, [])
  | .bind name d => ({ s with scope := s.scope.bind name d }, none, [])
  | .unbind name => ({ s with scope := s.scope.unbind name }, none, [])

def visibleNames (s : Session) : List String :=
  if s.interpreter.trail.followsScope then s.scope.map Prod.fst else []

end Session

end Formulary
