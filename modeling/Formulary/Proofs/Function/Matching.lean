import Formulary.Function.Signature

set_option autoImplicit false

namespace Formulary

namespace Parameter

def next (parameters : List Parameter) (pointer : Nat) : Nat :=
  match parameters[pointer]? with
  | some p => if p.variadic then pointer else pointer + 1
  | none => pointer + 1

def walk (parameters : List Parameter) (pointer : Nat) : Nat → List (Option Parameter)
  | 0 => []
  | arguments + 1 => parameters[pointer]? :: walk parameters (next parameters pointer) arguments

def OnlyLastRepeats (parameters : List Parameter) : Prop :=
  ∀ place p, parameters[place]? = some p → place + 1 < parameters.length → p.variadic = false

theorem onlyLastRepeats_iff {parameters : List Parameter} :
    OnlyLastRepeats parameters ↔ parameters.dropLast.find? Parameter.variadic = none := by
  rw [List.find?_eq_none]
  constructor
  · intro last p mem
    obtain ⟨place, front⟩ := List.mem_iff_getElem?.mp mem
    rw [List.getElem?_dropLast] at front
    split at front
    · rw [last place p front (by omega)]
      exact Bool.false_ne_true
    · cases front
  · intro once place p found before
    have front : parameters.dropLast[place]? = some p := by
      rw [List.getElem?_dropLast, if_pos (by omega), found]
    exact eq_false_of_ne_true (once p (List.mem_of_getElem? front))

end Parameter

namespace Signature

open Parameter

theorem make_eq_ok {name : String} {parameters : List Parameter} {returns : TypeTag} {body : Body}
    {s : Signature} :
    make name parameters returns body = .ok s ↔
      (name ≠ "" ∧ parameters.Pairwise (fun p q => p.name ≠ q.name) ∧ OnlyLastRepeats parameters) ∧
        s = ⟨Text.upper name, parameters, returns, body⟩ := by
  have names : parameters.Pairwise (fun p q => p.name ≠ q.name) ↔
      (parameters.map Parameter.name).Nodup := List.pairwise_map.symm
  rw [onlyLastRepeats_iff, names, make]
  by_cases named : name = ""
  · simp [named]
  by_cases distinct : (parameters.map Parameter.name).Nodup
  · cases found : parameters.dropLast.find? Parameter.variadic with
    | none => simp [named, distinct, eq_comm]
    | some p => simp [named, distinct]
  · simp [named, distinct]

section Matching

variable (s : Signature)

/-- The pointer goes along with the arguments, up to a last parameter that repeats. -/
def pointerAt (position : Nat) : Nat :=
  if s.isVariadic then min position (s.parameters.length - 1) else position

theorem pointerAt_zero : s.pointerAt 0 = 0 := by simp [pointerAt]

theorem isVariadic_eq :
    s.isVariadic = (s.parameters[s.parameters.length - 1]?.map Parameter.variadic).getD false := by
  rw [isVariadic, List.getLast?_eq_getElem?]

variable {s}

theorem length_pos_of_isVariadic (repeats : s.isVariadic = true) : 0 < s.parameters.length := by
  rw [List.length_pos_iff]
  intro none
  simp [isVariadic, none] at repeats

theorem variadic_iff (last : OnlyLastRepeats s.parameters) {place : Nat} {p : Parameter}
    (found : s.parameters[place]? = some p) :
    p.variadic = true ↔ s.isVariadic = true ∧ place + 1 = s.parameters.length := by
  have inside : place < s.parameters.length := (List.getElem?_eq_some_iff.mp found).1
  by_cases before : place + 1 < s.parameters.length
  · have plain := last place p found before
    simp [plain]
    omega
  · have final : place = s.parameters.length - 1 := by omega
    have here : place + 1 = s.parameters.length := by omega
    rw [isVariadic_eq, ← final, found]
    simp [here]

theorem next_pointerAt (last : OnlyLastRepeats s.parameters) (position : Nat) :
    next s.parameters (s.pointerAt position) = s.pointerAt (position + 1) := by
  unfold next
  cases found : s.parameters[s.pointerAt position]? with
  | none =>
      have past := List.getElem?_eq_none_iff.mp found
      cases repeats : s.isVariadic with
      | false => simp [pointerAt, repeats]
      | true =>
          have given := length_pos_of_isVariadic repeats
          simp only [pointerAt, repeats, if_true] at past
          omega
  | some p =>
      have here := variadic_iff last found
      have inside := (List.getElem?_eq_some_iff.mp found).1
      cases repeats : s.isVariadic with
      | false => simp_all [pointerAt]
      | true =>
          simp only [pointerAt, repeats, if_true, true_and] at here inside ⊢
          split <;> simp_all <;> omega

theorem getElem?_pointerAt (position : Nat) :
    s.parameters[s.pointerAt position]? = s.parameterFor position := by
  rw [parameterFor]
  cases found : s.parameters[position]? with
  | some p =>
      have inside := (List.getElem?_eq_some_iff.mp found).1
      have here : s.pointerAt position = position := by
        unfold pointerAt
        split <;> omega
      rw [here, found]
  | none =>
      have past := List.getElem?_eq_none_iff.mp found
      unfold pointerAt
      split
      · rw [Nat.min_eq_right (by omega), List.getLast?_eq_getElem?]
      · exact found

theorem walk_pointerAt (last : OnlyLastRepeats s.parameters) (position arguments : Nat) :
    walk s.parameters (s.pointerAt position) arguments =
      (List.range' position arguments).map s.parameterFor := by
  induction arguments generalizing position with
  | zero => rfl
  | succ arguments ih =>
      rw [walk, getElem?_pointerAt, next_pointerAt last, ih, List.range'_succ, List.map_cons]

theorem parameterFor_eq_none {position : Nat} :
    s.parameterFor position = none ↔ s.parameters.length ≤ position ∧ s.isVariadic = false := by
  rw [parameterFor]
  cases found : s.parameters[position]? with
  | some p =>
      have inside := (List.getElem?_eq_some_iff.mp found).1
      simp
      omega
  | none =>
      have past := List.getElem?_eq_none_iff.mp found
      cases repeats : s.isVariadic with
      | false => simp [past]
      | true =>
          have given := length_pos_of_isVariadic repeats
          simp [List.length_pos_iff.mp given]

end Matching

end Signature

open Parameter in
/-- A declaration under a name is accepted exactly if its parameters have different names and none
that repeats stands before the last one. Each argument then goes to the parameter that a pointer
walking through the list shows, and to none behind a last parameter that does not repeat. -/
theorem matching_is_walk (name : String) (parameters : List Parameter) (returns : TypeTag)
    (body : Body) :
    ((∃ s, Signature.make name parameters returns body = .ok s) ↔
      name ≠ "" ∧ parameters.Pairwise (fun p q => p.name ≠ q.name) ∧ OnlyLastRepeats parameters) ∧
    ∀ s, Signature.make name parameters returns body = .ok s →
      (∀ arguments, (List.range arguments).map s.parameterFor = walk parameters 0 arguments) ∧
      ∀ position, s.parameterFor position = none ↔
        parameters.length ≤ position ∧ ∀ p, parameters.getLast? = some p → p.variadic = false := by
  constructor
  · simp only [Signature.make_eq_ok, exists_and_left, exists_eq, and_true]
  · intro s made
    obtain ⟨⟨-, -, last⟩, rfl⟩ := Signature.make_eq_ok.mp made
    refine ⟨fun arguments => ?_, fun position => ?_⟩
    · have walked := Signature.walk_pointerAt (s := ⟨Text.upper name, parameters, returns, body⟩)
        last 0 arguments
      rw [Signature.pointerAt_zero, ← List.range_eq_range'] at walked
      exact walked.symm
    · rw [Signature.parameterFor_eq_none, Signature.isVariadic]
      cases parameters.getLast? <;> simp

theorem matching_is_walk_repeated :
    let first : Parameter := ⟨"condition", .all, false⟩
    let others : Parameter := ⟨"values", .number, true⟩
    Signature.make "pick" [first, others] .any (fun _ => .ok .nameError) =
        .ok ⟨"PICK", [first, others], .any, fun _ => .ok .nameError⟩ ∧
      (List.range 4).map (Signature.parameterFor
        ⟨"PICK", [first, others], .any, fun _ => .ok .nameError⟩) =
        [some first, some others, some others, some others] := by
  intro first others
  have made : Signature.make "pick" [first, others] .any (fun _ => .ok .nameError) =
      .ok ⟨"PICK", [first, others], .any, fun _ => .ok .nameError⟩ := by rfl
  exact ⟨made, ((matching_is_walk "pick" _ _ _).2 _ made).1 4⟩

end Formulary
