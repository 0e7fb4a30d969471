import Formulary.Formula.Session

set_option autoImplicit false

namespace Formulary

structure Caller where
  debug : Bool
  legacy : Bool
  scope : Scope

namespace Caller

def setting (c : Caller) : Setting := ⟨c.scope, c.legacy⟩

def step (c : Caller) : Session.Step → Caller
  | .setDebug on => { c with debug := on }
  | .setLegacy on => { c with legacy := on }
  | .bind name d => { c with scope := c.scope.bind name d }
  | .unbind name => { c with scope := c.scope.unbind name }
  | .evaluate _ | .clear => c

def after (c : Caller) (steps : List Session.Step) : Caller := steps.foldl step c

def trail (c : Caller) (expression : String) : Trail :=
  if c.debug then
    let ts := Token.tokens expression
    ⟨ts, (Run.ofTokens c.setting ts).position, !c.scope.isEmpty⟩
  else {}

end Caller

theorem Interpreter.evaluate_value (i : Interpreter) (scope : Scope) (e : String) :
    (i.evaluate scope e).2.1 = Formulary.evaluate ⟨scope, i.legacy⟩ e := by
  rw [Interpreter.evaluate, Formulary.evaluate]
  cases Token.tokens e <;> rfl

theorem Interpreter.evaluate_interpreter (i : Interpreter) (scope : Scope) (e : String) :
    (i.evaluate scope e).1 = { i with trail := Caller.trail ⟨i.debug, i.legacy, scope⟩ e } := by
  rw [Interpreter.evaluate, Caller.trail]
  dsimp only
  split
  · rename_i blank
    rw [blank]
    rfl
  · rfl

namespace Session

def start (c : Caller) : Session := ⟨{ debug := c.debug, legacy := c.legacy }, c.scope⟩

def caller (s : Session) : Caller := ⟨s.interpreter.debug, s.interpreter.legacy, s.scope⟩

def after (s : Session) (steps : List Step) : Session := steps.foldl (fun s step => (s.step step).1) s

def keptScope (s : Session) : Scope := if s.interpreter.trail.followsScope then s.scope else []

theorem visibleNames_eq (s : Session) : s.visibleNames = s.keptScope.map Prod.fst := by
  rw [visibleNames, keptScope]
  split <;> rfl

def answerText? (s : Session) (e : String) : Option String :=
  (s.step (.evaluate e)).2.1.map Value.asText

def Step.settles : Step → Bool
  | .evaluate _ | .clear => true
  | _ => false

def Step.trail (c : Caller) (kept : Trail) : Step → Trail
  | .evaluate e => c.trail e
  | .clear => {}
  | _ => kept

theorem caller_step (s : Session) (step : Step) : (s.step step).1.caller = s.caller.step step := by
  cases step with
  | evaluate e => simp [Session.step, caller, Interpreter.evaluate_interpreter, Caller.step]
  | _ => rfl

theorem trail_step (s : Session) (step : Step) :
    (s.step step).1.interpreter.trail = step.trail s.caller s.interpreter.trail := by
  cases step with
  | evaluate e => simp [Session.step, Interpreter.evaluate_interpreter, Step.trail, caller]
  | _ => rfl

theorem after_append (s : Session) (steps later : List Step) :
    s.after (steps ++ later) = (s.after steps).after later := List.foldl_append

theorem caller_after (s : Session) (steps : List Step) :
    (s.after steps).caller = s.caller.after steps := by
  induction steps generalizing s with
  | nil => rfl
  | cons step steps ih => exact (ih _).trans (congrArg (Caller.after · steps) (caller_step s step))

theorem trail_after_idle (s : Session) {steps : List Step}
    (idle : ∀ step ∈ steps, step.settles = false) :
    (s.after steps).interpreter.trail = s.interpreter.trail := by
  induction steps generalizing s with
  | nil => rfl
  | cons step steps ih =>
      obtain ⟨now, later⟩ := List.forall_mem_cons.mp idle
      have same : (s.step step).1.interpreter.trail = s.interpreter.trail := by
        rw [trail_step]
        cases step <;> first | rfl | cases now
      exact (ih _ later).trans same

theorem trail_after_settled (s : Session) (before : List Step) (last : Step) {later : List Step}
    (idle : ∀ step ∈ later, step.settles = false) :
    (s.after (before ++ last :: later)).interpreter.trail =
      last.trail (s.caller.after before) (s.after before).interpreter.trail := by
  have split : before ++ last :: later = (before ++ [last]) ++ later := by simp
  rw [split, after_append, trail_after_idle _ idle, after_append, ← caller_after]
  exact trail_step _ last

/-- A session keeps no hidden state. Every answer is that of a new interpreter outside debug mode,
for the flag and the bindings that the caller has made by then. What stays of the past is the run of
the last evaluation, if that was in debug mode and was not cleared since: its tokens, how far it
came, and the bindings as they are now, or no bindings for good if it began without any. -/
theorem keeps_last_trail (c : Caller) (steps : List Step) :
    let session := (start c).after steps
    let now := c.after steps
    (∀ e, let fresh := Interpreter.evaluate { debug := false, legacy := now.legacy } now.scope e
      (session.step (.evaluate e)).2.1 = some fresh.2.1 ∧
        session.answerText? e = some fresh.2.1.asText) ∧
    ((∀ step ∈ steps, step.settles = false) → session.interpreter.trail = {}) ∧
    (∀ before last later, steps = before ++ last :: later → last.settles = true →
      (∀ step ∈ later, step.settles = false) →
      let began := c.after before
      match last with
      | .evaluate e =>
          if began.debug then
            session.interpreter.trail.tokens = Token.tokens e ∧
            session.interpreter.trail.position =
              (Run.ofTokens ⟨began.scope, began.legacy⟩ (Token.tokens e)).position ∧
            session.keptScope = if began.scope = [] then [] else now.scope
          else session.interpreter.trail = {}
      | _ => session.interpreter.trail = {}) := by
  intro session now
  have told : session.caller = now := caller_after (start c) steps
  refine ⟨fun e => ?_, trail_after_idle (start c), ?_⟩
  · have answer : (session.step (.evaluate e)).2.1 = some (Formulary.evaluate now.setting e) :=
      congrArg some ((Interpreter.evaluate_value _ _ e).trans
        (congrArg (fun c => Formulary.evaluate (Caller.setting c) e) told))
    dsimp only
    rw [answerText?, answer, Interpreter.evaluate_value]
    exact ⟨rfl, rfl⟩
  · rintro before last later rfl settles idle
    have kept : session.interpreter.trail = last.trail (c.after before) _ :=
      trail_after_settled (start c) before last idle
    have scope : session.scope = now.scope := congrArg Caller.scope told
    cases last with
    | evaluate e =>
        have kept : session.interpreter.trail = (c.after before).trail e := kept
        dsimp only
        rw [keptScope, kept, scope, Caller.trail]
        split
        · refine ⟨rfl, rfl, ?_⟩
          cases (c.after before).scope <;> rfl
        · rfl
    | clear => exact kept
    | setDebug on => cases settles
    | setLegacy on => cases settles
    | bind name d => cases settles
    | unbind name => cases settles

theorem keeps_last_trail_fault :
    let session := (start ⟨true, false, [("x", .integer 1)]⟩).after
      [.clear, .evaluate "(x", .setDebug false, .bind "y" (.integer 2)]
    session.interpreter.trail.position = 2 ∧ session.visibleNames = ["x", "y"] ∧
      (session.step (.evaluate "y")).2.1 = some (.number 2) := by
  intro session
  obtain ⟨answers, -, kept⟩ := keeps_last_trail ⟨true, false, [("x", .integer 1)]⟩
    [.clear, .evaluate "(x", .setDebug false, .bind "y" (.integer 2)]
  obtain ⟨-, position, scope⟩ := kept [.clear] (.evaluate "(x")
    [.setDebug false, .bind "y" (.integer 2)] rfl rfl (by decide)
  refine ⟨position, ?_, (answers "y").1⟩
  rw [visibleNames_eq]
  exact congrArg (List.map Prod.fst) scope

end Session

end Formulary
