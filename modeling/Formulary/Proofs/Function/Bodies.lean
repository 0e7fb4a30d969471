import Formulary.Proofs.Value.Arithmetic

set_option autoImplicit false

namespace Formulary.Function

theorem truth_error {v : Value} {f : Fault} (fails : truth v = .error f) :
    ∃ t, v = .error t ∧ f = .notBoolean t := by
  cases v with
  | error t =>
      cases fails
      exact ⟨t, rfl, rfl⟩
  | _ => cases fails

theorem conjunction_error {args : List Value} {f : Fault} (fails : conjunction args = .error f) :
    ∃ v ∈ args, truth v = .error f := by
  induction args with
  | nil => cases fails
  | cons v rest ih =>
      rw [conjunction] at fails
      cases read : truth v with
      | error g =>
          rw [read] at fails
          cases fails
          exact ⟨v, List.mem_cons_self .., read⟩
      | ok b =>
          rw [read] at fails
          cases b with
          | false => cases fails
          | true =>
              obtain ⟨w, mem, fails⟩ := ih fails
              exact ⟨w, List.mem_cons_of_mem _ mem, fails⟩

theorem disjunction_error {args : List Value} {f : Fault} (fails : disjunction args = .error f) :
    ∃ v ∈ args, truth v = .error f := by
  induction args with
  | nil => cases fails
  | cons v rest ih =>
      rw [disjunction] at fails
      cases read : truth v with
      | error g =>
          rw [read] at fails
          cases fails
          exact ⟨v, List.mem_cons_self .., read⟩
      | ok b =>
          rw [read] at fails
          cases b with
          | true => cases fails
          | false =>
              obtain ⟨w, mem, fails⟩ := ih fails
              exact ⟨w, List.mem_cons_of_mem _ mem, fails⟩

theorem choose_error {pick : Float → List Float → Float} {args : List Value} {f : Fault}
    (fails : choose pick args = .error f) : args = [] ∧ f = .shortArguments := by
  cases args with
  | nil =>
      cases fails
      exact ⟨rfl, rfl⟩
  | cons v rest => cases fails

theorem onFirst_error {g : Value → Except Fault Value} {args : List Value} {f : Fault}
    (fails : onFirst g args = .error f) :
    (args = [] ∧ f = .missingArgument) ∨ ∃ v, args[0]? = some v ∧ g v = .error f := by
  cases args with
  | nil =>
      cases fails
      exact .inl ⟨rfl, rfl⟩
  | cons v rest => exact .inr ⟨v, rfl, fails⟩

theorem negation_error {args : List Value} {f : Fault} (fails : negation args = .error f) :
    (args = [] ∧ f = .missingArgument) ∨ ∃ v, args[0]? = some v ∧ truth v = .error f := by
  obtain none | ⟨v, given, fails⟩ := onFirst_error fails
  · exact .inl none
  · cases read : truth v with
    | ok b => simp [read, Except.map] at fails
    | error g =>
        rw [read] at fails
        cases fails
        exact .inr ⟨v, given, read⟩

theorem conditional_error {args : List Value} {f : Fault} (fails : conditional args = .error f) :
    (args.length < 3 ∧ f = .shortArguments) ∨ ∃ v, args[0]? = some v ∧ truth v = .error f := by
  match args, fails with
  | condition :: whenTrue :: whenFalse :: rest, fails =>
      simp only [conditional] at fails
      cases read : truth condition with
      | ok b => cases b <;> simp [read, bind, Except.bind, pure, Except.pure] at fails
      | error g =>
          rw [read] at fails
          cases fails
          exact .inr ⟨condition, rfl, read⟩
  | [], fails | [_], fails | [_, _], fails =>
      cases fails
      exact .inl ⟨by simp, rfl⟩

theorem recovered_error {args : List Value} {f : Fault} (fails : recovered args = .error f) :
    args.length < 2 ∧ f = .shortArguments := by
  match args, fails with
  | [], fails | [_], fails =>
      cases fails
      exact ⟨by simp, rfl⟩

theorem admitsErrorAt_repeated {name : String} {type returns : TypeTag} {body : Body}
    (refuses : type ≠ .all) (position : Nat) :
    Signature.admitsErrorAt ⟨name, repeated type, returns, body⟩ position = false := by
  cases position <;>
    simp [Signature.admitsErrorAt, Signature.parameterFor, Signature.isVariadic, repeated,
      Parameter.admitsErrors, refuses]

/-- Why the body of a function gives no value: too few arguments, or an error that it takes for a
truth value although its parameter does not admit errors. -/
inductive Failure (s : Signature) (args : List Value) : Fault → Prop where
  | missing (few : args.length < s.arity) : Failure s args .missingArgument
  | short (few : args.length < s.arity) : Failure s args .shortArguments
  | untrue {position : Nat} {t : String} (given : args[position]? = some (.error t))
      (refuses : s.admitsErrorAt position = false) : Failure s args (.notBoolean t)

theorem Failure.of_truth {s : Signature} {args : List Value} {position : Nat} {v : Value} {f : Fault}
    (given : args[position]? = some v) (refuses : s.admitsErrorAt position = false)
    (read : truth v = .error f) : Failure s args f := by
  obtain ⟨t, rfl, rfl⟩ := truth_error read
  exact .untrue given refuses

theorem failure_of_choose {name : String} {returns : TypeTag} {pick : Float → List Float → Float}
    {args : List Value} {f : Fault} (fails : choose pick args = .error f) :
    Failure ⟨name, repeated .number, returns, choose pick⟩ args f := by
  obtain ⟨rfl, rfl⟩ := choose_error fails
  exact .short Nat.one_pos

theorem failure_of_truths {name : String} {returns : TypeTag} {body : Body}
    {decide : List Value → Except Fault Bool}
    (reads : ∀ {args f}, decide args = .error f → ∃ v ∈ args, truth v = .error f)
    {args : List Value} {f : Fault} (fails : (decide args).map Value.boolean = .error f) :
    Failure ⟨name, repeated .boolean, returns, body⟩ args f := by
  cases decided : decide args with
  | ok b => simp [decided, Except.map] at fails
  | error g =>
      rw [decided] at fails
      cases fails
      obtain ⟨v, mem, read⟩ := reads decided
      obtain ⟨position, given⟩ := List.mem_iff_getElem?.mp mem
      exact .of_truth given (admitsErrorAt_repeated (by decide) position) read

theorem failure_of_first {s : Signature} (needs : s.arity = 1) {g : Value → Except Fault Value}
    (sound : ∀ v, ∃ w, g v = .ok w) {args : List Value} {f : Fault}
    (fails : onFirst g args = .error f) : Failure s args f := by
  obtain ⟨rfl, rfl⟩ | ⟨v, -, impossible⟩ := onFirst_error fails
  · exact .missing (by simp [needs])
  · obtain ⟨w, read⟩ := sound v
    rw [read] at impossible
    cases impossible

theorem mem_of_find? {name : String} {s : Signature} (found : builtIn.find? name = some s) :
    s ∈ builtIn.signatures := by
  rw [Catalog.find?] at found
  exact List.mem_of_find?_eq_some found

theorem failure_of_body {s : Signature} (known : s ∈ builtIn.signatures) {args : List Value}
    {f : Fault} (fails : s.body args = .error f) : Failure s args f := by
  simp only [builtIn, List.mem_cons, List.not_mem_nil, or_false] at known
  rcases known with rfl | rfl | rfl | rfl | rfl | rfl | rfl | rfl | rfl | rfl | rfl | rfl | rfl | rfl
  -- In the order of the catalog.
  · exact failure_of_choose fails
  · exact failure_of_choose fails
  · cases fails
  · cases fails
  · cases fails
  · exact failure_of_truths conjunction_error fails
  · exact failure_of_truths disjunction_error fails
  · obtain ⟨rfl, rfl⟩ | ⟨v, given, read⟩ := negation_error fails
    · exact .missing (by decide)
    · exact .of_truth given (by decide) read
  · cases fails
  · exact failure_of_first rfl numberOf_ok fails
  · exact failure_of_first rfl (fun _ => ⟨_, rfl⟩) fails
  · obtain ⟨few, rfl⟩ | ⟨v, given, read⟩ := conditional_error fails
    · exact .short few
    · exact .of_truth given (by decide) read
  · exact failure_of_first rfl (fun _ => ⟨_, rfl⟩) fails
  · obtain ⟨few, rfl⟩ := recovered_error fails
    exact .short few

end Formulary.Function
