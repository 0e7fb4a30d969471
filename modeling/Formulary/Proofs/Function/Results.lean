import Formulary.Proofs.Data.Outcome
import Formulary.Proofs.Function.Bodies

set_option autoImplicit false

namespace Formulary

def TypeTag.Covers : TypeTag → Value → Prop
  | .any, v => v.isError = false
  | .all, _ => True
  | type, v => v.tag = type

theorem Value.isError_iff (v : Value) : v.isError = true ↔ v.tag = .error := by
  cases v <;> simp [isError, tag]

/-- Enough arguments, with errors only where they are admitted. No parameter admits an argument that
is one too many. -/
structure Signature.Accepts (s : Signature) (args : List Value) : Prop where
  enough : s.arity ≤ args.length
  admitted : ∀ position v, args[position]? = some v → v.isError = true →
    s.admitsErrorAt position = true

namespace Function

/-- What a body gives: a value of the declared type, an argument that it hands on, or `#VALUE` for
an argument whose type it cannot read. -/
inductive Result (s : Signature) (args : List Value) : Value → Prop where
  | typed {v : Value} (type : v.tag = s.returns) : Result s args v
  | handed {position : Nat} {v : Value} (free : s.returns = .any)
      (given : args[position]? = some v)
      (sound : v.isError = true → s.admitsErrorAt position = false) : Result s args v
  | unreadable {v : Value} (name : s.name = "VALUE") (refuses : s.admitsErrorAt 0 = false)
      (given : args[0]? = some v) (type : v.tag = .boolean ∨ v.isError = true) :
      Result s args .valueError
  | unmeasured {v : Value} (name : s.name = "ISNAN") (given : args[0]? = some v)
      (type : v.tag ≠ .number) : Result s args .valueError

section Bodies

variable {args : List Value} {v : Value}

theorem tag_of_choose {pick : Float → List Float → Float} (run : choose pick args = .ok v) :
    v.tag = .number := by
  rw [choose] at run
  cases numbered : numbers args with
  | nil =>
      rw [numbered] at run
      cases run
  | cons x xs =>
      rw [numbered] at run
      cases run
      rfl

theorem tag_of_truth {e : Except Fault Bool} {f : Bool → Bool}
    (run : (e.map fun b => Value.boolean (f b)) = .ok v) : v.tag = .boolean := by
  cases e with
  | error g => cases run
  | ok b =>
      cases run
      rfl

theorem onFirst_ok {g : Value → Except Fault Value} (run : onFirst g args = .ok v) :
    ∃ w, args[0]? = some w ∧ g w = .ok v := by
  cases args with
  | nil => cases run
  | cons w rest => exact ⟨w, rfl, run⟩

theorem conditional_ok (run : conditional args = .ok v) :
    args[1]? = some v ∨ args[2]? = some v := by
  match args, run with
  | condition :: whenTrue :: whenFalse :: rest, run =>
      rcases bind_eq_ok.mp run with ⟨b, -, chosen⟩
      cases b with
      | true =>
          cases chosen
          exact .inl rfl
      | false =>
          cases chosen
          exact .inr rfl
  | [], run | [_], run | [_, _], run => cases run

theorem recovered_ok (run : recovered args = .ok v) :
    (args[0]? = some v ∧ v.isError = false) ∨ args[1]? = some v := by
  match args, run with
  | w :: fallback :: rest, run =>
      cases wrong : w.isError with
      | true =>
          simp only [recovered, wrong, if_true] at run
          cases run
          exact .inr rfl
      | false =>
          simp only [recovered, wrong] at run
          cases run
          exact .inl ⟨rfl, wrong⟩
  | [], run | [_], run => cases run

theorem result_of_numberOf {s : Signature} (name : s.name = "VALUE") (returns : s.returns = .number)
    (refuses : s.admitsErrorAt 0 = false) {w : Value} (given : args[0]? = some w)
    (run : numberOf w = .ok v) : Result s args v := by
  cases w with
  | number x =>
      cases run
      exact .typed returns.symm
  | string t =>
      rw [numberOf_string] at run
      cases run
      exact .typed returns.symm
  | boolean b =>
      cases run
      exact .unreadable name refuses given (.inl rfl)
  | error t =>
      cases run
      exact .unreadable name refuses given (.inr rfl)

theorem result_of_isNotANumber {s : Signature} (name : s.name = "ISNAN")
    (returns : s.returns = .boolean) {w : Value} (given : args[0]? = some w) :
    Result s args (isNotANumber w) := by
  cases w with
  | number x => exact .typed returns.symm
  | _ => exact .unmeasured name given nofun

end Bodies

theorem result_of_body {s : Signature} (known : s ∈ builtIn.signatures) {args : List Value}
    {v : Value} (run : s.body args = .ok v) : Result s args v := by
  simp only [builtIn, List.mem_cons, List.not_mem_nil, or_false] at known
  rcases known with rfl | rfl | rfl | rfl | rfl | rfl | rfl | rfl | rfl | rfl | rfl | rfl | rfl | rfl
  -- In the order of the catalog.
  · exact .typed (tag_of_choose run)
  · exact .typed (tag_of_choose run)
  · cases run
    exact .typed rfl
  · cases run
    exact .typed rfl
  · cases run
    exact .typed rfl
  · exact .typed (tag_of_truth run)
  · exact .typed (tag_of_truth run)
  · rcases onFirst_ok run with ⟨w, -, run⟩
    exact .typed (tag_of_truth run)
  · cases run
    exact .typed rfl
  · rcases onFirst_ok run with ⟨w, given, run⟩
    exact result_of_numberOf rfl rfl rfl given run
  · rcases onFirst_ok run with ⟨w, given, run⟩
    cases run
    exact result_of_isNotANumber rfl rfl given
  · rcases conditional_ok run with given | given
    · exact .handed rfl given fun _ => rfl
    · exact .handed rfl given fun _ => rfl
  · rcases onFirst_ok run with ⟨w, -, run⟩
    cases run
    exact .typed rfl
  · rcases recovered_ok run with ⟨given, sound⟩ | given
    · exact .handed rfl given fun wrong => by rw [sound] at wrong; cases wrong
    · exact .handed rfl given fun _ => rfl

theorem returns_no_error : ∀ s ∈ builtIn.signatures, s.returns ≠ .error := by decide

theorem error_of_body {s : Signature} (known : s ∈ builtIn.signatures) {args : List Value}
    {v : Value} (run : s.body args = .ok v) (wrong : v.isError = true) :
    v = .valueError ∨ v ∈ args := by
  cases result_of_body known run with
  | typed type =>
      rw [Value.isError_iff] at wrong
      exact absurd (type.symm.trans wrong) (returns_no_error s known)
  | handed free given sound => exact .inr (List.mem_of_getElem? given)
  | unreadable name refuses given type => exact .inl rfl
  | unmeasured name given type => exact .inl rfl

theorem body_succeeds {s : Signature} (known : s ∈ builtIn.signatures) {args : List Value}
    (accepts : s.Accepts args) : ∃ v, s.body args = .ok v := by
  cases run : s.body args with
  | ok v => exact ⟨v, rfl⟩
  | error f =>
      exfalso
      cases failure_of_body known run with
      | missing few => exact Nat.not_lt.mpr accepts.enough few
      | short few => exact Nat.not_lt.mpr accepts.enough few
      | untrue given refuses =>
          rw [accepts.admitted _ _ given rfl] at refuses
          cases refuses

theorem covers_of_tag {type : TypeTag} {v : Value} (same : v.tag = type) : type.Covers v := by
  subst same
  cases v <;> rfl

/-- Every body gives a value of the declared type for arguments that its signature accepts. The
exceptions are `VALUE` of a truth value and `ISNAN` of anything but a number, which give `#VALUE`. -/
theorem bodies_respect_signatures {s : Signature} (known : s ∈ builtIn.signatures)
    {args : List Value} (accepts : s.Accepts args) :
    ∃ v, s.body args = .ok v ∧
      (s.returns.Covers v ∨
        v = .valueError ∧
          ((s.name = "VALUE" ∧ ∃ b, args.head? = some (.boolean b)) ∨
            (s.name = "ISNAN" ∧ ∃ w, args.head? = some w ∧ w.tag ≠ .number))) := by
  rcases body_succeeds known accepts with ⟨v, run⟩
  refine ⟨v, run, ?_⟩
  cases result_of_body known run with
  | typed type => exact .inl (covers_of_tag type)
  | handed free given sound =>
      refine .inl ?_
      rw [free, TypeTag.Covers, ← Bool.not_eq_true]
      intro wrong
      have admits := accepts.admitted _ _ given wrong
      rw [sound wrong] at admits
      cases admits
  | @unreadable w name refuses given type =>
      have first : args.head? = some w := List.head?_eq_getElem?.trans given
      cases w with
      | boolean b => exact .inr ⟨rfl, .inl ⟨name, b, first⟩⟩
      | error t =>
          have admits := accepts.admitted 0 _ given rfl
          rw [refuses] at admits
          cases admits
      | _ => simp [Value.tag] at type
  | unmeasured name given type =>
      exact .inr ⟨rfl, .inr ⟨name, _, List.head?_eq_getElem?.trans given, type⟩⟩

theorem bodies_respect_signatures_surplus :
    let s : Signature := ⟨"IFERROR", [⟨"value", .all, false⟩, ⟨"value_if_error", .any, false⟩], .any,
      recovered⟩
    let args : List Value := [.divisionError, .string "none", .boolean true]
    s ∈ builtIn.signatures ∧ s.Accepts args ∧ ∃ v, s.body args = .ok v ∧ s.returns.Covers v := by
  intro s args
  have known : s ∈ builtIn.signatures := @mem_of_find? "iferror" s rfl
  have accepts : s.Accepts args := by
    refine ⟨by decide, fun position v given wrong => ?_⟩
    match position, given with
    | 0, _ => rfl
    | 1, given | 2, given =>
        cases given
        cases wrong
  rcases bodies_respect_signatures known accepts with ⟨v, run, covers | ⟨-, other⟩⟩
  · exact ⟨known, accepts, v, run, covers⟩
  · simp [s] at other

end Function

end Formulary
