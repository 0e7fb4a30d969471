import Formulary.Value.Slot
import Mathlib.Data.List.Induction

set_option autoImplicit false

namespace Formulary.Slot

inductive Sound : Slot → Prop where
  | number (x : Float) : Sound ⟨.number, .float x⟩
  | string (s : String) : Sound ⟨.string, .text s⟩
  | boolean (b : Bool) : Sound ⟨.boolean, .boolean b⟩
  | error {code : String} (capital : Text.upper code = code) : Sound ⟨.error, .text ("#" ++ code)⟩

theorem upper_sharp (code : String) : Text.upper ("#" ++ code) = "#" ++ Text.upper code := by
  have sharp : Text.upperChar '#' = ['#'] := by decide
  apply String.toList_injective
  simp [Text.upper, sharp]

theorem isErrorText_iff {s : String} :
    isErrorText s = true ↔ ∃ code, Text.upper code = code ∧ s = "#" ++ code := by
  constructor
  · intro canonical
    obtain ⟨head, capital⟩ := Bool.and_eq_true_iff.mp canonical
    obtain ⟨cs, chars⟩ := List.head?_eq_some_iff.mp (beq_iff_eq.mp head)
    have text : s = "#" ++ String.ofList cs := String.toList_injective (by simp [chars])
    have same := beq_iff_eq.mp capital
    rw [text, upper_sharp] at same
    exact ⟨String.ofList cs, (String.append_right_inj "#").mp same.symm, text⟩
  · rintro ⟨code, capital, rfl⟩
    simp [isErrorText, upper_sharp, capital]

theorem sound_iff_value {slot : Slot} : slot.Sound ↔ ∃ v, slot.value = .ok v := by
  constructor
  · rintro (x | s | b | @⟨code, capital⟩)
    · exact ⟨.number x, rfl⟩
    · exact ⟨.string s, rfl⟩
    · exact ⟨.boolean b, rfl⟩
    · exact ⟨.error ("#" ++ code), if_pos (isErrorText_iff.mpr ⟨code, capital, rfl⟩)⟩
  · rintro ⟨v, held⟩
    obtain ⟨tag, payload⟩ := slot
    cases tag <;> cases payload
    case number.float x => exact .number x
    case string.text s => exact .string s
    case boolean.boolean b => exact .boolean b
    case error.text s =>
      by_cases canonical : isErrorText s = true
      · obtain ⟨code, capital, rfl⟩ := isErrorText_iff.mp canonical
        exact .error capital
      · simp [value, canonical] at held
    all_goals cases held

theorem sound_iff_check {slot : Slot} : slot.Sound ↔ slot.check = [] := by
  rw [sound_iff_value, check]
  cases slot.value <;> simp

theorem ofValue_value {slot : Slot} {v : Value} (held : slot.value = .ok v) : ofValue v = slot := by
  obtain ⟨x⟩ | ⟨t⟩ | ⟨b⟩ | @⟨code, capital⟩ := sound_iff_value.mpr ⟨v, held⟩
  case error =>
    have canonical := isErrorText_iff.mpr ⟨code, capital, rfl⟩
    simp only [value, canonical, if_true] at held
    cases held
    rfl
  all_goals
    cases held
    rfl

theorem sound_of_make {type payload : Datum} {others : List String} {v : Value}
    (made : make type payload others = .ok v) : (ofValue v).Sound := by
  simp only [make] at made
  split at made
  case h_1 t p _ _ =>
    split at made
    · cases made
    · split at made
      · rename_i held
        cases made
        rw [ofValue_value held]
        exact sound_iff_value.mpr ⟨v, held⟩
      · cases made
  all_goals cases made

abbrev Assignment := String × Datum

/-- What a slot is once an assignment is stored, if it is: data of the right kind for a part. -/
def stored? (slot : Slot) (a : Assignment) : Option Slot :=
  if a.1 = "type" then (TypeTag.ofDatum a.2).toOption.map fun t => { slot with tag := t }
  else if a.1 = "value" then
    (Payload.ofDatum a.2).toOption.map fun p => { slot with payload := p }
  else none

def after (slot : Slot) (as : List Assignment) : Slot :=
  as.foldl (fun slot a => (slot.assign a.1 a.2).1) slot

theorem stored?_isSome (slot slot' : Slot) (a : Assignment) :
    (slot.stored? a).isSome = (slot'.stored? a).isSome := by
  simp only [stored?]
  split
  · simp
  · split <;> simp

theorem assign_unstored {slot : Slot} {a : Assignment} (unstored : slot.stored? a = none) :
    (slot.assign a.1 a.2).1 = slot := by
  unfold stored? at unstored
  unfold assign
  split at unstored
  · rename_i type
    cases read : TypeTag.ofDatum a.2 with
    | ok t => simp [read, Except.toOption] at unstored
    | error issues => simp [type]
  · rename_i type
    split at unstored
    · rename_i value
      cases read : Payload.ofDatum a.2 with
      | ok p => simp [read, Except.toOption] at unstored
      | error issues => simp [value]
    · rename_i value
      simp only [if_neg type, if_neg value]
      split
      · rfl
      · split <;> rfl

theorem assign_stored {slot next : Slot} {a : Assignment} (stores : slot.stored? a = some next) :
    slot.assign a.1 a.2 = (next, if next.check = [] then none else some (.issues next.check)) := by
  unfold stored? at stores
  unfold assign
  split at stores
  · rename_i type
    cases read : TypeTag.ofDatum a.2 with
    | error issues => simp [read, Except.toOption] at stores
    | ok t =>
        rw [read] at stores
        cases stores
        simp [type]
  · split at stores
    · rename_i type value
      cases read : Payload.ofDatum a.2 with
      | error issues => simp [read, Except.toOption] at stores
      | ok p =>
          rw [read] at stores
          cases stores
          simp [value]
    · cases stores

theorem accepted_iff_sound {slot next : Slot} {a : Assignment}
    (stores : slot.stored? a = some next) : (slot.assign a.1 a.2).2 = none ↔ next.Sound := by
  rw [assign_stored stores, sound_iff_check]
  split <;> simp_all

def LastAccepted (slot : Slot) (as : List Assignment) : Prop :=
  ∀ before a later, as = before ++ a :: later → (slot.stored? a).isSome →
    (∀ b ∈ later, slot.stored? b = none) → ((slot.after before).assign a.1 a.2).2 = none

theorem cut_of_concat {as before later : List Assignment} {last a : Assignment}
    (cut : as ++ [last] = before ++ a :: later) :
    (before = as ∧ a = last ∧ later = []) ∨
      ∃ between, later = between ++ [last] ∧ as = before ++ a :: between := by
  rcases List.eq_nil_or_concat later with rfl | ⟨between, b, rfl⟩
  · obtain ⟨rfl, same⟩ := List.append_inj' cut rfl
    cases same
    exact .inl ⟨rfl, rfl, rfl⟩
  · rw [List.concat_eq_append] at cut ⊢
    rw [← List.cons_append, ← List.append_assoc] at cut
    obtain ⟨rfl, same⟩ := List.append_inj' cut rfl
    cases same
    exact .inr ⟨between, rfl, rfl⟩

theorem lastAccepted_concat (slot : Slot) (as : List Assignment) (last : Assignment) :
    slot.LastAccepted (as ++ [last]) ↔
      if (slot.stored? last).isSome then ((slot.after as).assign last.1 last.2).2 = none
      else slot.LastAccepted as := by
  split
  · rename_i stores
    constructor
    · exact fun all => all as last [] rfl stores (by simp)
    · intro accepted before a later cut _ unstored
      obtain ⟨rfl, rfl, -⟩ | ⟨between, rfl, -⟩ := cut_of_concat cut
      · exact accepted
      · rw [unstored last (by simp)] at stores
        cases stores
  · rename_i idle
    constructor
    · rintro all before a later rfl stores unstored
      apply all before a (later ++ [last]) (by simp) stores
      intro b mem
      obtain mem | rfl : b ∈ later ∨ b = last := by simpa using mem
      · exact unstored b mem
      · simpa using idle
    · intro all before a later cut stores unstored
      obtain ⟨-, rfl, -⟩ | ⟨between, rfl, rfl⟩ := cut_of_concat cut
      · exact absurd stores idle
      · exact all before a between rfl stores fun b mem => unstored b (by simp [mem])

theorem after_sound_iff {slot : Slot} (sound : slot.Sound) (as : List Assignment) :
    (slot.after as).Sound ↔ slot.LastAccepted as := by
  induction as using List.reverseRecOn with
  | nil => simpa [after, LastAccepted] using sound
  | append_singleton as last ih =>
      have step : slot.after (as ++ [last]) = ((slot.after as).assign last.1 last.2).1 := by
        simp [after]
      rw [step, lastAccepted_concat, stored?_isSome slot (slot.after as)]
      cases stores : (slot.after as).stored? last with
      | some next =>
          rw [if_pos (by rfl), accepted_iff_sound stores, assign_stored stores]
      | none =>
          rw [if_neg (by simp), assign_unstored stores, ih]

/-- A refused assignment leaves a value as it was, unless its data are of the right kind for a part:
then they are stored although they do not match the other part. The slot makes a value again once a
later assignment is stored and accepted. -/
theorem refused_assignments {type payload : Datum} {others : List String} {v : Value}
    (made : make type payload others = .ok v) (as : List Assignment) :
    (∀ before a later refusal, as = before ++ a :: later →
      (((ofValue v).after before).assign a.1 a.2).2 = some refusal →
        match ((ofValue v).after before).stored? a with
        | none => (((ofValue v).after before).assign a.1 a.2).1 = (ofValue v).after before
        | some next => (((ofValue v).after before).assign a.1 a.2).1 = next ∧ ¬next.Sound) ∧
    (((ofValue v).after as).Sound ↔ (ofValue v).LastAccepted as) := by
  refine ⟨?_, after_sound_iff (sound_of_make made) as⟩
  intro before a later refusal _ refused
  cases stores : ((ofValue v).after before).stored? a with
  | none => exact assign_unstored stores
  | some next =>
      refine ⟨by rw [assign_stored stores], fun sound => ?_⟩
      rw [(accepted_iff_sound stores).mpr sound] at refused
      cases refused

theorem refused_assignments_text :
    make (.text "string") (.text "a") [] = .ok (.string "a") ∧
      ¬((ofValue (.string "a")).after [("value", .boolean true)]).Sound ∧
      ((ofValue (.string "a")).after [("value", .boolean true), ("type", .text "boolean")]).Sound := by
  have made : make (.text "string") (.text "a") [] = .ok (.string "a") := by rfl
  have keeps := (refused_assignments made [("value", .boolean true)]).1 [] _ [] _ rfl rfl
  have sound :=
    (refused_assignments made ([("value", .boolean true)] ++ [("type", .text "boolean")])).2
  exact ⟨made, keeps.2, sound.mpr ((lastAccepted_concat _ _ _).mpr (by rfl))⟩

/-- A refused payload takes the place of the one before it. -/
theorem refused_payload_stays :
    (ofValue (.number 1.0)).assign "value" (.text "oops") =
        (⟨.number, .text "oops"⟩, some (.issues [⟨[], .rejected
          "number value requires a float payload, got str"⟩])) ∧
      ofValue (.number 1.0) ≠ ⟨.number, .text "oops"⟩ ∧ ¬Sound ⟨.number, .text "oops"⟩ :=
  ⟨by rfl, nofun, nofun⟩

end Formulary.Slot
