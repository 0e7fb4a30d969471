import Formulary.Command.Act
import Formulary.Proofs.Data.Outcome

set_option autoImplicit false

namespace Formulary.Command

namespace Run

variable {α β : Type}

def on (x : Run α) (d : Deeds) : Except Ending α × Deeds := x.run.run d

@[simp] theorem on_pure (a : α) (d : Deeds) : (pure a : Run α).on d = (.ok a, d) := rfl

theorem on_bind (x : Run α) (f : α → Run β) (d : Deeds) :
    (x >>= f).on d = match x.on d with
      | (.ok a, d) => (f a).on d
      | (.error e, d) => (.error e, d) := by
  unfold on ExceptT.run StateT.run
  simp only [bind, ExceptT.bind, ExceptT.mk, StateT.bind, ExceptT.bindCont]
  cases x d with
  | mk result d => cases result <;> rfl

@[simp] theorem on_leave (e : Ending) (d : Deeds) : (leave e : Run α).on d = (.error e, d) := rfl

@[simp] theorem on_get (d : Deeds) : (get : Run Deeds).on d = (.ok d, d) := rfl

@[simp] theorem on_set (d d' : Deeds) : (set d' : Run Unit).on d = (.ok (), d') := rfl

@[simp] theorem on_echo (text : String) (d : Deeds) :
    (echo text).on d = (.ok (), { d with output := d.output ++ Screen.Control.strip text }) := rfl

@[simp] theorem on_tell (n : Screen.Notice) (d : Deeds) :
    (tell n).on d = (.ok (), { d with output := d.output ++ n.text }) := rfl

@[simp] theorem on_orElse_ok {ε : Type} (way : ε → Run α) (a : α) (d : Deeds) :
    (orElse way (.ok a)).on d = (.ok a, d) := rfl

@[simp] theorem on_orElse_error {ε : Type} (way : ε → Run α) (e : ε) (d : Deeds) :
    (orElse way (.error e)).on d = (way e).on d := rfl

@[simp] theorem on_orMisuse_ok (c : Command) (a : α) (d : Deeds) :
    (orMisuse c (.ok a)).on d = (.ok a, d) := rfl

theorem on_discard (x : Run α) (d : Deeds) :
    (discard x : Run Unit).on d = match x.on d with
      | (.ok _, d) => (.ok (), d)
      | (.error e, d) => (.error e, d) := by
  have bound : (discard x : Run Unit) = x >>= fun _ => pure () := rfl
  rw [bound, on_bind]
  rfl

theorem on_bind_ok {x : Run α} {f : α → Run β} {d d' : Deeds} {a : α}
    (first : x.on d = (.ok a, d')) : (x >>= f).on d = (f a).on d' := by
  rw [on_bind, first]

theorem on_bind_error {x : Run α} {f : α → Run β} {d d' : Deeds} {e : Ending}
    (first : x.on d = (.error e, d')) : (x >>= f).on d = (.error e, d') := by
  rw [on_bind, first]

end Run

def Ending.IsReported (e : Ending) (d : Deeds) : Prop :=
  match e with
  | .exit 0 => True
  | .exit status => status = 1 ∧ d.output ≠ ""
  | .misuse _ _ | .idle _ => True
  | .crash _ => False

namespace Run

variable {α : Type}

/-- A command goes on, or is left in a way that is reported. -/
def Reports (r : Except Ending α × Deeds) : Prop :=
  match r with
  | (.ok _, _) => True
  | (.error e, d) => e.IsReported d

theorem reports_fail (message : String) (d : Deeds) :
    Reports ((fail message : Run α).on d) := by
  refine ⟨rfl, ?_⟩
  simp [Screen.Notice.text]

end Run

section Enter

variable {w : Surroundings} {c : Command} {args : List String} {line : Line}

structure Entered (w : Surroundings) (c : Command) (args : List String) (line : Line) : Prop where
  asked : (c.isGroup && args.isEmpty) = false
  read : Line.scan c.switches (!c.isGroup) args = .ok line
  calm : line.first? [.help, .version] = none
  checked : (line.given.forM fun g => checkValue w.folder c line g.key) = .ok ()
  complete : checkRest c line.rest = .ok ()

theorem enter_on (entered : Entered w c args line) (d : Deeds) :
    (enter w c args).on d = (.ok line, d) := by
  obtain ⟨asked, read, calm, checked, complete⟩ := entered
  simp only [enter, asked, read, calm, checked, complete, Run.on_bind, Run.on_orMisuse_ok,
    Run.on_pure, Bool.false_eq_true, if_false]

theorem enter_cases (w : Surroundings) (c : Command) (args : List String) (d : Deeds) :
    (∃ line, Entered w c args line) ∨
      ∃ e d', (enter w c args).on d = (.error e, d') ∧ e.IsReported d' := by
  simp only [enter]
  cases asked : c.isGroup && args.isEmpty with
  | true => exact .inr ⟨.idle c, d, rfl, trivial⟩
  | false =>
      simp only [Bool.false_eq_true, if_false, Run.on_bind]
      cases read : Line.scan c.switches (!c.isGroup) args with
      | error m => exact .inr ⟨.misuse c m, d, rfl, trivial⟩
      | ok line =>
          simp only [Run.on_orMisuse_ok]
          cases calm : line.first? [.help, .version] with
          | some key => exact .inr ⟨.exit 0, _, rfl, trivial⟩
          | none =>
              simp only [Run.on_bind]
              cases checked : line.given.forM fun g => checkValue w.folder c line g.key with
              | error m => exact .inr ⟨.misuse c m, d, rfl, trivial⟩
              | ok _ =>
                  simp only [Run.on_orMisuse_ok]
                  cases complete : checkRest c line.rest with
                  | error m => exact .inr ⟨.misuse c m, d, rfl, trivial⟩
                  | ok _ => exact .inl ⟨line, asked, read, calm, checked, complete⟩

end Enter

section Pick

variable {α : Type} {w : Surroundings} {c : Command} {members : List (String × α)}

theorem pick_on {name : String} {member : α} (found : members.lookup name = some member)
    (rest : List String) (d : Deeds) :
    (pick w c members (name :: rest)).on d = (.ok (member, rest), d) := by
  simp [pick, found]

theorem pick_cases (w : Surroundings) (c : Command) (members : List (String × α))
    (args : List String) (d : Deeds) :
    (∃ name rest member, args = name :: rest ∧ members.lookup name = some member) ∨
      ∃ e d', (pick w c members args).on d = (.error e, d') ∧ e.IsReported d' := by
  cases args with
  | nil => exact .inr ⟨.misuse c .missingCommand, d, rfl, trivial⟩
  | cons name rest =>
      cases found : members.lookup name with
      | some member => exact .inl ⟨name, rest, member, rfl, found⟩
      | none =>
          refine .inr ?_
          simp only [pick, found]
          split
          · simp only [Run.on_bind, Run.on_discard]
            obtain ⟨line, entered⟩ | ⟨e, d', left, reported⟩ := enter_cases w c (name :: rest) d
            · rw [enter_on entered]
              exact ⟨_, d, rfl, trivial⟩
            · rw [left]
              exact ⟨e, d', rfl, reported⟩
          · exact ⟨.misuse c (.noSuchCommand name _), d, rfl, trivial⟩

end Pick

section Leads

variable {w : Surroundings}

/-- The arguments lead through the groups to an action, which they ask something of. -/
inductive Leads (w : Surroundings) : List String → General → Action → Line → Prop where
  | direct {args rest : List String} {name : String} {a : Action} {general own : Line}
      (root : Entered w .root args general) (called : general.rest = name :: rest)
      (found : Command.ofRoot.lookup name = some (some a))
      (entered : Entered w (.action a) rest own) :
      Leads w args (.ofLine general) a own
  | grouped {args rest more : List String} {name inner : String} {a : Action}
      {general group own : Line}
      (root : Entered w .root args general) (called : general.rest = name :: rest)
      (found : Command.ofRoot.lookup name = some none)
      (config : Entered w .config rest group) (calledInner : group.rest = inner :: more)
      (foundInner : Command.ofConfig.lookup inner = some a)
      (entered : Entered w (.action a) more own) :
      Leads w args (.ofLine general) a own

def act (w : Surroundings) (g : General) (a : Action) (line : Line) : Run Unit :=
  match a with
  | .evaluate => evaluate w g (.ofLine line)
  | .functions => printTable functionTable
  | .profiles => printTable profileTable
  | .show => showSettings w g (formatOf line)
  | .validate => validate w g (pathOf line .configFile)

theorem perform_on {g : General} {a : Action} {args : List String} {own : Line}
    (entered : Entered w (.action a) args own) (d : Deeds) :
    (perform w g a args).on d = (act w g a own).on d := by
  rw [perform, Run.on_bind_ok (enter_on entered d)]
  cases a <;> rfl

theorem follow_on {args : List String} {g : General} {a : Action} {line : Line}
    (leads : Leads w args g a line) (d : Deeds) : (follow w args).on d = (act w g a line).on d := by
  cases leads with
  | direct root called found entered =>
      rw [follow, Run.on_bind_ok (enter_on root d), called, Run.on_bind_ok (pick_on found _ d)]
      exact perform_on entered d
  | grouped root called found config calledInner foundInner entered =>
      rw [follow, Run.on_bind_ok (enter_on root d), called, Run.on_bind_ok (pick_on found _ d)]
      simp only
      rw [Run.on_bind_ok (enter_on config d), calledInner, Run.on_bind_ok (pick_on foundInner _ d)]
      exact perform_on entered d

theorem perform_cases (w : Surroundings) (g : General) (a : Action) (args : List String)
    (d : Deeds) :
    (∃ own, Entered w (.action a) args own) ∨
      ∃ e d', (perform w g a args).on d = (.error e, d') ∧ e.IsReported d' := by
  obtain entered | ⟨e, d', left, reported⟩ := enter_cases w (.action a) args d
  · exact .inl entered
  · exact .inr ⟨e, d', Run.on_bind_error left, reported⟩

theorem follow_cases (w : Surroundings) (args : List String) (d : Deeds) :
    (∃ g a line, Leads w args g a line) ∨
      ∃ e d', (follow w args).on d = (.error e, d') ∧ e.IsReported d' := by
  obtain ⟨general, root⟩ | ⟨e, d', left, reported⟩ := enter_cases w .root args d
  · rw [follow, Run.on_bind_ok (enter_on root d)]
    obtain ⟨name, rest, member, called, found⟩ | ⟨e, d', left, reported⟩ :=
      pick_cases w .root Command.ofRoot general.rest d
    · rw [called, Run.on_bind_ok (pick_on found _ d)]
      cases member with
      | some a =>
          obtain ⟨own, entered⟩ | ended := perform_cases w (.ofLine general) a rest d
          · exact .inl ⟨_, a, own, .direct root called found entered⟩
          · exact .inr ended
      | none =>
          obtain ⟨group, config⟩ | ⟨e, d', left, reported⟩ := enter_cases w .config rest d
          · simp only
            rw [Run.on_bind_ok (enter_on config d)]
            obtain ⟨inner, more, a, calledInner, foundInner⟩ | ⟨e, d', left, reported⟩ :=
              pick_cases w .config Command.ofConfig group.rest d
            · rw [calledInner, Run.on_bind_ok (pick_on foundInner _ d)]
              obtain ⟨own, entered⟩ | ended := perform_cases w (.ofLine general) a more d
              · exact .inl ⟨_, a, own,
                  .grouped root called found config calledInner foundInner entered⟩
              · exact .inr ended
            · exact .inr ⟨e, d', Run.on_bind_error left, reported⟩
          · exact .inr ⟨e, d', Run.on_bind_error left, reported⟩
    · exact .inr ⟨e, d', Run.on_bind_error left, reported⟩
  · exact .inr ⟨e, d', Run.on_bind_error left, reported⟩

end Leads

section Outcomes

variable {w : Surroundings} {args : List String}

def start (w : Surroundings) : Deeds := { world := { files := w.folder } }

def Outcome.ofResult : Except Ending Unit × Deeds → Outcome
  | (.ok (), d) => ⟨d, .exit 0⟩
  | (.error e, d) => ⟨d, e⟩

theorem run_eq (w : Surroundings) (args : List String) :
    run w args = .ofResult ((follow w args).on (start w)) := by
  have same : (follow w args).run.run { world := { files := w.folder } } =
      (follow w args).on (start w) := rfl
  simp only [run, same]
  cases (follow w args).on (start w) with
  | mk result d => cases result <;> rfl

end Outcomes

end Formulary.Command
