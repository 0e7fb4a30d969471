import Formulary.Proofs.Command.Course
import Formulary.Proofs.Log.Delivery
import Formulary.Proofs.Session.History

set_option autoImplicit false

namespace Formulary.Command

namespace Run

def Prints (x : Run Unit) : Prop :=
  ∀ d, ∃ text, x.on d = (.ok (), { d with output := d.output ++ text })

theorem prints_nothing : Prints (pure ()) := fun d => ⟨"", by simp⟩

theorem prints_tell (n : Screen.Notice) : Prints (tell n) := fun _ => ⟨n.text, rfl⟩

theorem Prints.bind {x y : Run Unit} (first : Prints x) (second : Prints y) :
    Prints (do x; y) := by
  intro d
  obtain ⟨text, done⟩ := first d
  obtain ⟨more, done'⟩ := second { d with output := d.output ++ text }
  exact ⟨text ++ more, by rw [on_bind_ok done, done', String.append_assoc]⟩

theorem prints_forM {α : Type} {f : α → Run Unit} (each : ∀ x, Prints (f x)) (xs : List α) :
    Prints (xs.forM f) := by
  induction xs with
  | nil => exact prints_nothing
  | cons x xs ih => exact (each x).bind ih

end Run

section Loading

variable {w : Surroundings} {g : General}

def loaded (w : Surroundings) (g : General) : Except LoadFault Settings :=
  Settings.load w.folder w.environment g.profile { file := g.configFile, homes := w.homes }

theorem loadSettings_ok {s : Settings} (given : loaded w g = .ok s) (d : Deeds) :
    ∃ told, (loadSettings w g).on d = (.ok s, { d with output := d.output ++ told }) ∧
      (g.verbose = false → told = "") := by
  rw [loaded] at given
  simp only [loadSettings, given, Run.on_bind, Run.on_orElse_ok]
  cases verbose : g.verbose with
  | false => exact ⟨"", by simp, fun _ => rfl⟩
  | true =>
      let first : Screen.Notice := .success ("Loaded configuration from profile: " ++ g.profile)
      cases g.configFile with
      | none => exact ⟨first.text, rfl, nofun⟩
      | some path =>
          let second : Screen.Notice := .success ("Applied overrides from: " ++ path)
          refine ⟨first.text ++ second.text, ?_, nofun⟩
          simp only [if_true, Run.on_bind, Run.on_tell, Run.on_pure, String.append_assoc, first,
        second]

theorem leaveOn_on (α : Type) (front : String) (f : LoadFault) (d : Deeds) :
    ∃ e d', (leaveOn front f : Run α).on d = (.error e, d') ∧
      (isTold f = true → e.IsReported d') ∧ (isTold f = false → e = .crash (.settings f)) := by
  rw [leaveOn]
  cases isTold f with
  | true =>
      have differs : ¬(true = false) := by decide
      refine ⟨.exit 1, { d with output := d.output ++ _ }, rfl, fun _ => ⟨rfl, ?_⟩,
        fun untold => absurd untold differs⟩
      simp [Screen.Notice.text]
  | false =>
      exact ⟨.crash (.settings f), d, rfl, fun told => absurd told Bool.false_ne_true,
        fun _ => rfl⟩

theorem loadSettings_error {f : LoadFault} (failed : loaded w g = .error f) (d : Deeds) :
    ∃ e d', (loadSettings w g).on d = (.error e, d') ∧
      (isTold f = true → e.IsReported d') ∧ (isTold f = false → e = .crash (.settings f)) := by
  obtain ⟨e, d', left, ending⟩ := leaveOn_on Settings "Failed to load configuration: " f d
  rw [loaded] at failed
  refine ⟨e, d', ?_, ending⟩
  simp only [loadSettings, failed, Run.on_bind, Run.on_orElse_error, left]

end Loading

section Logging

variable {s : LoggingSettings} {d : Deeds}

theorem setUp_ok (opened : (Log.Logger.configure s d.world).2.2 = .ok ()) :
    ∃ logger world, (setUp s).on d = (.ok logger, { d with world := world }) :=
  ⟨_, _, by
    simp only [setUp, Run.on_bind, Run.on_get, Run.on_set, opened, Run.on_orElse_ok, Run.on_pure]
    rfl⟩

def quieted (g : General) (s : LoggingSettings) : LoggingSettings :=
  if g.quiet then { s with level := .error } else s

theorem configure_quieted_iff (g : General) (world : Log.World) :
    (Log.Logger.configure (quieted g s) world).2.2 = .ok () ↔
      Log.Format.isAccepted s.format = true ∧
        ∀ path ∈ s.file, (world.files.makeWay path).isOk = true := by
  have sameFormat : (quieted g s).format = s.format := by unfold quieted; split <;> rfl
  have sameFile : (quieted g s).file = s.file := by unfold quieted; split <;> rfl
  rw [Log.configure_eq_ok, sameFormat, sameFile]

end Logging

section Evaluating

variable {w : Surroundings} {g : General} {r : Request}

theorem orBindings_ok {α : Type} (a : α) (d : Deeds) :
    (orBindings (.ok a)).on d = (.ok a, d) := rfl

theorem report_on (logger : Log.Logger) (e : Event) (d : Deeds) :
    ∃ world, (report w logger e).on d = (.ok (), { d with world := world }) := ⟨_, rfl⟩

theorem reports_on (logger : Log.Logger) (events : List Event) (d : Deeds) :
    ∃ world, (events.forM (report w logger)).on d = (.ok (), { d with world := world }) := by
  induction events generalizing d with
  | nil => exact ⟨d.world, rfl⟩
  | cons e events ih =>
      obtain ⟨world, first⟩ := report_on (w := w) logger e d
      obtain ⟨world', others⟩ := ih { d with world := world }
      exact ⟨world', (Run.on_bind_ok first).trans others⟩

theorem leaveIf_on (e : Ending) (c : Prop) [Decidable c] (d : Deeds) :
    (if c then Run.leave e else pure ()).on d = (if c then .error e else .ok (), d) := by
  split <;> rfl

theorem evaluate_on {d : Deeds} {s : Settings} {bs assigned : Bindings}
    (given : loaded w g = .ok s)
    (opened : (Log.Logger.configure (quieted g s.logging) d.world).2.2 = .ok ())
    (file : fileBindings w.folder r.scopeFile = .ok bs)
    (well : Bindings.ofAssignments r.assignments = .ok assigned) :
    let value := Formulary.evaluate
      ⟨(bs.extend assigned).scope, s.interpreter.legacyArgumentErrors⟩ r.expression
    ∃ front back world, (evaluate w g r).on d =
        (if r.strict && value.isError then .error (.exit 1) else .ok (),
          { output := d.output ++ front ++ Screen.Control.strip (value.asText ++ "\n") ++ back
            world := world }) ∧
      (g.verbose = false → front = "" ∧ back = "") := by
  intro value
  obtain ⟨front, begun, silent⟩ := loadSettings_ok given d
  obtain ⟨logger, world, ready⟩ := setUp_ok (d := { d with output := d.output ++ front }) opened
  unfold quieted at ready
  simp only [evaluate, Run.on_bind, begun, ready, file, well, orBindings_ok]
  have same := Interpreter.evaluate_value
    ⟨r.debug.getD s.interpreter.debug, s.interpreter.legacyArgumentErrors, {}⟩
    (bs.extend assigned).scope r.expression
  generalize Interpreter.evaluate _ _ _ = run at same ⊢
  obtain ⟨after, found, events⟩ := run
  obtain rfl : found = value := same
  obtain ⟨world', logged⟩ := reports_on (w := w) logger events
    { output := d.output ++ front, world := world }
  simp only [logged, Run.on_echo]
  cases shown : r.debug.getD s.interpreter.debug && g.verbose with
  | false =>
      refine ⟨front, "", world', ?_, fun quiet => ⟨silent quiet, rfl⟩⟩
      simp only [Bool.false_eq_true, if_false, leaveIf_on, String.append_empty]
  | true =>
      obtain ⟨back, told⟩ := Run.prints_forM Run.prints_tell (trailNotices after.trail)
        { output := d.output ++ front ++ Screen.Control.strip (value.asText ++ "\n")
          world := world' }
      have verbose : g.verbose = true := by simp_all
      refine ⟨front, back, world', ?_, fun quiet => by simp [verbose] at quiet⟩
      simp only [if_true, Run.on_bind, told, leaveIf_on]

end Evaluating

end Formulary.Command
