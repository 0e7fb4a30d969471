import Formulary.Proofs.Data.Outcome
import Formulary.Proofs.Function.Bodies
import Formulary.Proofs.Grammar.Parts

set_option autoImplicit false

namespace Formulary

open Rule Token

namespace Function

theorem admitting_parameters : ∀ s ∈ builtIn.signatures, ∀ entry ∈ s.parameters.zipIdx,
    entry.1.admitsErrors = true →
      entry.2 = 0 ∧ s.name ∈ ["ISERROR", "IFERROR"] ∧ s.isVariadic = false := by
  decide

theorem parameter_of_admitsErrorAt {s : Signature} {position : Nat}
    (admitted : s.admitsErrorAt position = true) :
    ∃ p, s.parameterFor position = some p ∧ p.admitsErrors = true := by
  rw [Signature.admitsErrorAt] at admitted
  cases found : s.parameterFor position with
  | none => simp [found] at admitted
  | some p => exact ⟨p, rfl, by simpa [found] using admitted⟩

theorem admitsErrorAt_of_mem {s : Signature} (known : s ∈ builtIn.signatures) {position : Nat}
    (admitted : s.admitsErrorAt position = true) :
    position = 0 ∧ s.name ∈ ["ISERROR", "IFERROR"] := by
  obtain ⟨p, found, admits⟩ := parameter_of_admitsErrorAt admitted
  rw [Signature.parameterFor] at found
  cases own : s.parameters[position]? with
  | some q =>
      rw [own] at found
      cases found
      have entry : (p, position) ∈ s.parameters.zipIdx := List.mem_zipIdx_iff_getElem?.mpr own
      obtain ⟨first, named, -⟩ := admitting_parameters s known _ entry admits
      exact ⟨first, named⟩
  | none =>
      rw [own] at found
      have last : s.isVariadic = true ∧ s.parameters.getLast? = some p := by simpa using found
      obtain ⟨i, entry⟩ := List.mem_iff_getElem?.mp (List.mem_of_getLast? last.2)
      obtain ⟨-, -, fixed⟩ :=
        admitting_parameters s known (p, i) (List.mem_zipIdx_iff_getElem?.mpr entry) admits
      rw [last.1] at fixed
      cases fixed

theorem name_of_find? {name : String} {s : Signature} (found : builtIn.find? name = some s) :
    s.name = Text.upper name := by
  rw [Catalog.find?] at found
  simpa using List.find?_some found

theorem admits_iff (name : String) (position : Nat) :
    admits name position = true ↔ position = 0 ∧ Text.upper name ∈ ["ISERROR", "IFERROR"] := by
  constructor
  · intro admitted
    rw [admits] at admitted
    cases found : builtIn.find? name with
    | none => simp [found] at admitted
    | some s =>
        rw [found] at admitted
        rw [← name_of_find? found]
        exact admitsErrorAt_of_mem (mem_of_find? found) admitted
  · rintro ⟨rfl, named⟩
    rw [admits, Catalog.find?]
    simp only [List.mem_cons, List.not_mem_nil, or_false] at named
    obtain named | named := named <;> rw [named] <;> rfl

theorem isError_of_refused? {s : Signature} {args : List Value} {e : Value}
    (refused : s.refused? args = some e) : e.isError = true := by
  rw [Signature.refused?, Option.map_eq_some_iff] at refused
  obtain ⟨⟨v, position⟩, found, rfl⟩ := refused
  have refuses := List.find?_some found
  exact (Bool.and_eq_true_iff.mp refuses).1

theorem admitted_of_refused? {s : Signature} {args : List Value} (none : s.refused? args = none)
    {position : Nat} {v : Value} (given : args[position]? = some v) (error : v.isError = true) :
    s.admitsErrorAt position = true := by
  rw [Signature.refused?, Option.map_eq_none_iff] at none
  have passed := List.find?_eq_none.mp none (v, position) (List.mem_zipIdx_iff_getElem?.mpr given)
  simpa [error] using passed

theorem admits_of_value {name : String} {args : List Value} {v : Value}
    (value : value name args = .ok v) (sound : v.isError = false) {position : Nat} {w : Value}
    (given : args[position]? = some w) (error : w.isError = true) :
    admits name position = true := by
  rw [Function.value] at value
  rw [admits]
  cases found : builtIn.find? name with
  | none =>
      rw [found] at value
      cases value
      cases sound
  | some s =>
      rw [found] at value
      dsimp only at value
      rw [Signature.value] at value
      cases refused : s.refused? args with
      | some e =>
          rw [refused] at value
          cases value
          rw [isError_of_refused? refused] at sound
          cases sound
      | none => exact admitted_of_refused? refused given error

end Function

theorem Operation.isError_of_meet {op : Operation} {a b v : Value} (met : op.meet a b = .ok v)
    (sound : v.isError = false) : a.isError = false ∧ b.isError = false := by
  rw [Operation.meet] at met
  split at met
  · rename_i error
    cases met
    rw [error] at sound
    cases sound
  · rename_i left
    split at met
    · rename_i error
      cases met
      rw [error] at sound
      cases sound
    · rename_i right
      exact ⟨by simpa using left, by simpa using right⟩

theorem Operator.isError_signed (o : Operator.Additive) {v : Value} (error : v.isError = true) :
    (Operator.signed o v).isError = true := by
  cases v <;> first | rfl | cases error

namespace Tree

variable {scope : Scope}

theorem value_argument {ts : List Tree} {vs : List Value} (values : values scope ts = .ok vs)
    {i : Nat} {t : Tree} (given : ts[i]? = some t) :
    ∃ w, t.value scope = .ok w ∧ vs[i]? = some w := by
  induction ts generalizing i vs with
  | nil => cases given
  | cons u us ih =>
      rw [Tree.values] at values
      obtain ⟨w, first, values⟩ := bind_eq_ok.mp values
      obtain ⟨ws, others, values⟩ := bind_eq_ok.mp values
      cases values
      cases i with
      | zero =>
          cases given
          exact ⟨w, first, rfl⟩
      | succ i => exact ih others given

/-- A part directly below has a value too, and that is an error only if the whole is one or a call
that admits it there. -/
theorem value_child {t c : Tree} {v : Value} (value : t.value scope = .ok v) {i : Nat}
    (child : t.children[i]? = some c) :
    ∃ w, c.value scope = .ok w ∧ (v.isError = false → w.isError = true →
      ∃ f args, t = .call f args ∧ Function.admits f i = true) := by
  cases t with
  | sign o t =>
      obtain ⟨w, inner, value⟩ := bind_eq_ok.mp value
      cases value
      obtain ⟨rfl, rfl⟩ : i = 0 ∧ t = c := by simpa [children, List.getElem?_singleton] using child
      refine ⟨w, inner, fun sound error => ?_⟩
      rw [Operator.isError_signed o error] at sound
      cases sound
  | bracket t =>
      obtain ⟨rfl, rfl⟩ : i = 0 ∧ t = c := by simpa [children, List.getElem?_singleton] using child
      refine ⟨v, value, fun sound error => ?_⟩
      rw [error] at sound
      cases sound
  | binary op a b =>
      obtain ⟨x, left, value⟩ := bind_eq_ok.mp value
      obtain ⟨y, right, met⟩ := bind_eq_ok.mp value
      have clear (sound : v.isError = false) := Operation.isError_of_meet met sound
      have side : c = a ∨ c = b := by simpa [children] using List.mem_of_getElem? child
      obtain rfl | rfl := side
      · exact ⟨x, left, fun sound error => by simp [clear sound] at error⟩
      · exact ⟨y, right, fun sound error => by simp [clear sound] at error⟩
  | call f args =>
      obtain ⟨vs, values, value⟩ := bind_eq_ok.mp value
      obtain ⟨w, inner, given⟩ := value_argument values child
      exact ⟨w, inner, fun sound error =>
        ⟨f, args, rfl, Function.admits_of_value value sound given error⟩⟩
  | _ => cases child

def GoesIntoAdmitted (t : Tree) (path : List Nat) : Prop :=
  ∃ before i behind f args, path = before ++ i :: behind ∧ t.part? before = some (.call f args) ∧
    Function.admits f i = true

theorem value_part {t u : Tree} {v : Value} (value : t.value scope = .ok v) {path : List Nat}
    (part : t.part? path = some u) :
    ∃ w, u.value scope = .ok w ∧
      (v.isError = false → w.isError = true → t.GoesIntoAdmitted path) := by
  induction path generalizing t v with
  | nil =>
      cases part
      refine ⟨v, value, fun sound error => ?_⟩
      rw [error] at sound
      cases sound
  | cons i path ih =>
      obtain ⟨c, child, part⟩ := part?_cons.mp part
      obtain ⟨x, inner, passes⟩ := value_child value child
      obtain ⟨w, end_, goes⟩ := ih inner part
      refine ⟨w, end_, fun sound error => ?_⟩
      cases stage : x.isError with
      | true =>
          obtain ⟨f, args, rfl, admits⟩ := passes sound stage
          exact ⟨[], i, path, f, args, rfl, rfl, admits⟩
      | false =>
          obtain ⟨before, j, behind, f, args, rfl, called, admits⟩ := goes stage error
          exact ⟨i :: before, j, behind, f, args, rfl, part?_cons.mpr ⟨c, child, called⟩, admits⟩

/-- Only a parameter that admits errors can hide one. If a run that reads everything ends in no
error, each part of its expression that alone comes to an error lies in the first argument of
`ISERROR` or `IFERROR`. Where these are not called, the error of any part is an error of the whole. -/
theorem errors_surface {t : Tree} (fits : t.Fits []) {e : String}
    (written : t.yield = bare false (tokens e)) {v : Value}
    (run : Run.ofTokens ⟨scope, false⟩ (tokens e) = ⟨.ok v, (tokens e).length⟩) :
    (∀ path u, t.part? path = some u → ∃ w, u.value scope = .ok w ∧
      Run.ofTokens ⟨scope, false⟩ u.yield = ⟨.ok w, u.yield.length⟩ ∧
      (v.isError = false → w.isError = true →
        ∃ before behind f args, path = before ++ 0 :: behind ∧
          t.part? before = some (.call f args) ∧ Function.admits f 0 = true ∧
          Text.upper f ∈ ["ISERROR", "IFERROR"])) ∧
    ((∀ path f args, t.part? path = some (.call f args) →
        Text.upper f ∉ ["ISERROR", "IFERROR"]) →
      ∀ path u w, t.part? path = some u → u.value scope = .ok w → w.isError = true →
        v.isError = true) := by
  have value := value_of_ofTokens fits (canonical_tokens e).start written run
  constructor
  · intro path u part
    obtain ⟨w, inner, goes⟩ := value_part value part
    refine ⟨w, inner, ofTokens_yield (fits_part fits part) inner, fun sound error => ?_⟩
    obtain ⟨before, i, behind, f, args, rfl, called, admits⟩ := goes sound error
    obtain ⟨rfl, named⟩ := (Function.admits_iff f i).mp admits
    exact ⟨before, behind, f, args, rfl, called, admits, named⟩
  · intro uncalled path u w part inner error
    obtain ⟨w', inner', goes⟩ := value_part value part
    obtain rfl : w' = w := by simpa [inner'] using inner
    by_contra sound
    obtain ⟨before, i, -, f, args, -, called, admits⟩ := goes (by simpa using sound) error
    exact uncalled before f args called ((Function.admits_iff f i).mp admits).2

theorem errors_surface_recovered :
    let part : Tree := .binary .concat (.name "x") (.number "1")
    let t : Tree := .call "IfError" [.bracket part, .keyword "true"]
    t.part? [0, 0] = some part ∧ part.value [] = .ok .nameError ∧
      Run.ofTokens ⟨[], false⟩ (tokens "IfError( (x & 1), true )") = ⟨.ok (.boolean true), 15⟩ ∧
      ∃ before behind f args, [0, 0] = before ++ 0 :: behind ∧
        t.part? before = some (.call f args) ∧ Function.admits f 0 = true ∧
        Text.upper f ∈ ["ISERROR", "IFERROR"] := by
  intro part t
  have number : startsNumber "1" = true := by decide
  have fits : t.Fits [] :=
    ⟨by decide, nofun, ⟨by decide, by decide, ⟨by decide, by decide⟩, number⟩, by decide, by decide⟩
  have written : t.yield = bare false (tokens "IfError( (x & 1), true )") := by decide
  have run : Run.ofTokens ⟨[], false⟩ (tokens "IfError( (x & 1), true )") =
      ⟨.ok (.boolean true), 15⟩ := by rfl
  obtain ⟨w, value, -, goes⟩ := (errors_surface fits written run).1 [0, 0] part rfl
  cases value
  exact ⟨rfl, rfl, run, goes rfl rfl⟩

end Tree

end Formulary
