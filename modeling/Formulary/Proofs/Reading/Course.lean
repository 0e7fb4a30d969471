import Formulary.Proofs.Reading.Steps

set_option autoImplicit false

namespace Formulary

open Tape

variable {σ : Type} [Tape σ] {α β : Type}

/-- A relation between an earlier and a later tape of one run, whatever the rules do meanwhile. -/
structure Course (R : σ → σ → Prop) : Prop where
  refl : ∀ s, R s s
  trans : ∀ {s t u}, R s t → R t u → R s u
  move : ∀ {f}, (∀ ts, f ts <:+ ts) → ∀ s, R s (Tape.move f s)
  cut : ∀ s, R s (Tape.cut s)

def Keeps (R : σ → σ → Prop) (m : Cursor σ α) : Prop := ∀ s, R s (Cursor.last (m.run s))

namespace Rule

variable {R : σ → σ → Prop}

theorem keeps_pure (c : Course R) (a : α) : Keeps R (pure a) := c.refl

theorem keeps_bind (c : Course R) {m : Cursor σ α} {f : α → Cursor σ β} (first : Keeps R m)
    (next : ∀ a, Keeps R (f a)) : Keeps R (m >>= f) := by
  intro s
  have before := first s
  rw [EStateM.run_bind]
  cases run : m.run s with
  | ok a t =>
      rw [run] at before
      exact c.trans before (next a t)
  | error e t =>
      rw [run] at before
      exact before

theorem keeps_peek (c : Course R) : Keeps R peek := c.refl

theorem keeps_atMark (c : Course R) (m : Separator) : Keeps R (atMark m) := c.refl

theorem keeps_size (c : Course R) : Keeps R size := c.refl

theorem keeps_get (c : Course R) : Keeps R (get : Cursor σ σ) := c.refl

theorem keeps_move (c : Course R) {f : List Token → List Token} (shortens : ∀ ts, f ts <:+ ts) :
    Keeps R (modify (Tape.move f)) := c.move shortens

theorem keeps_advance (c : Course R) : Keeps R advance := keeps_move c skipSpaces_tail_suffix

theorem keeps_expect (c : Course R) (m : Separator) : Keeps R (expect m) := by
  intro s
  rw [run_expect]
  split
  · exact c.move skipSpaces_tail_suffix s
  · exact c.refl s

theorem keeps_lift (c : Course R) (e : Except Fault α) : Keeps R (lift e) := by
  cases e <;> exact c.refl

theorem keeps_surface (c : Course R) (v : Value) : Keeps R (surface v) := c.cut

theorem keeps_chain (c : Course R) {operand : Cursor σ Value} (h : Keeps R operand)
    (operator? : Token → Option α) (combine : α → Value → Value → Except Fault Value)
    (turns : Nat) (a : Value) : Keeps R (chain operand operator? combine turns a) := by
  induction turns generalizing a with
  | zero => exact keeps_pure c a
  | succ turns ih =>
      apply keeps_bind c (keeps_peek c)
      intro found
      split
      · exact keeps_pure c a
      · apply keeps_bind c (keeps_advance c)
        intro _
        apply keeps_bind c h
        intro b
        exact keeps_bind c (keeps_lift c _) ih

theorem keeps_tier (c : Course R) {operand : Cursor σ Value} (h : Keeps R operand)
    (operator? : Token → Option α) (combine : α → Value → Value → Except Fault Value) :
    Keeps R (tier operator? combine operand) := by
  apply keeps_bind c h
  intro a
  exact keeps_bind c (keeps_size c) fun _ => keeps_chain c h operator? combine _ a

theorem keeps_powerChain (c : Course R) {factor : Cursor σ Value} (h : Keeps R factor)
    (turns : Nat) : Keeps R (powerChain factor turns) := by
  induction turns with
  | zero => exact h
  | succ turns ih =>
      apply keeps_bind c h
      intro a
      apply keeps_bind c (keeps_atMark c _)
      intro found
      split
      · apply keeps_bind c (keeps_advance c)
        intro _
        exact keeps_bind c ih fun _ => keeps_lift c _
      · exact keeps_pure c a

theorem keeps_power (c : Course R) {factor : Cursor σ Value} (h : Keeps R factor) :
    Keeps R (power factor) :=
  keeps_bind c (keeps_size c) fun _ => keeps_powerChain c h _

theorem keeps_signChain (c : Course R) {atom : Cursor σ Value} (h : Keeps R atom)
    (turns : Nat) : Keeps R (signChain atom turns) := by
  induction turns with
  | zero => exact h
  | succ turns ih =>
      apply keeps_bind c (keeps_peek c)
      intro found
      split
      · apply keeps_bind c (keeps_advance c)
        intro _
        exact keeps_bind c ih fun _ => keeps_pure c _
      · exact h

theorem keeps_factor (c : Course R) {atom : Cursor σ Value} (h : Keeps R atom) :
    Keeps R (factor atom) :=
  keeps_bind c (keeps_size c) fun _ => keeps_signChain c h _

theorem keeps_bracket (c : Course R) {inner : Cursor σ Value} (h : Keeps R inner) :
    Keeps R (bracket inner) := by
  apply keeps_bind c (keeps_advance c)
  intro _
  apply keeps_bind c h
  intro v
  exact keeps_bind c (keeps_expect c _) fun _ => keeps_pure c v

theorem keeps_quotation (c : Course R) : Keeps R (quotation : Cursor σ Value) := by
  apply keeps_bind c (keeps_move c List.tail_suffix)
  intro _
  apply keeps_bind c (keeps_get c)
  intro ts
  apply keeps_bind c (keeps_move c fun us => List.dropWhile_suffix _)
  intro _
  exact keeps_bind c (keeps_expect c _) fun _ => keeps_pure c _

theorem keeps_arguments (c : Course R) {inner : Cursor σ Value} (h : Keeps R inner)
    (legacy : Bool) (admitsError : Nat → Bool) (turns : Nat) (args : List Value)
    (refused : Option Value) : Keeps R (arguments inner legacy admitsError turns args refused) := by
  induction turns generalizing args refused with
  | zero => exact keeps_pure c _
  | succ turns ih =>
      apply keeps_bind c h
      intro arg
      dsimp only
      split
      · exact keeps_pure c _
      · apply keeps_bind c (keeps_atMark c _)
        intro found
        split
        · exact keeps_bind c (keeps_advance c) fun _ => ih _ _
        · exact keeps_pure c _

theorem keeps_listed (c : Course R) {inner : Cursor σ Value} (h : Keeps R inner)
    (legacy : Bool) (admitsError : Nat → Bool) : Keeps R (listed inner legacy admitsError) := by
  apply keeps_bind c (keeps_atMark c _)
  intro found
  split
  · exact keeps_pure c _
  · exact keeps_bind c (keeps_size c) fun _ => keeps_arguments c h _ _ _ _ _

theorem keeps_call (c : Course R) {inner : Cursor σ Value} (h : Keeps R inner)
    (legacy : Bool) (name : String) : Keeps R (call legacy inner name) := by
  rw [call_eq]
  split
  · exact keeps_surface c _
  · apply keeps_bind c (keeps_advance c)
    intro _
    apply keeps_bind c (keeps_listed c h _ _)
    intro given
    cases given with
    | abandoned e => exact keeps_surface c e
    | complete args refused => exact keeps_bind c (keeps_expect c _) fun _ => keeps_lift c _

theorem keeps_identifier (c : Course R) {inner : Cursor σ Value} (h : Keeps R inner)
    (setting : Setting) (name : String) : Keeps R (identifier setting inner name) := by
  apply keeps_bind c (keeps_advance c)
  intro _
  apply keeps_bind c (keeps_atMark c _)
  intro found
  split
  · exact keeps_call c h _ _
  · exact keeps_lift c _

theorem keeps_word (c : Course R) {inner : Cursor σ Value} (h : Keeps R inner)
    (setting : Setting) (w : String) : Keeps R (word setting inner w) := by
  unfold word
  split
  · exact keeps_bind c (keeps_advance c) fun _ => keeps_lift c _
  · split
    · exact keeps_bind c (keeps_advance c) fun _ => keeps_pure c _
    · split
      · exact keeps_identifier c h setting w
      · exact keeps_pure c _

theorem keeps_atom (c : Course R) {inner : Cursor σ Value} (h : Keeps R inner)
    (setting : Setting) : Keeps R (atom setting inner) := by
  apply keeps_bind c (keeps_peek c)
  intro found
  split
  · exact keeps_bracket c h
  · exact keeps_quotation c
  · exact keeps_word c h setting _
  · exact keeps_pure c _

theorem keeps_comparison (c : Course R) {inner : Cursor σ Value} (h : Keeps R inner)
    (setting : Setting) : Keeps R (comparison setting inner) := by
  have powers := keeps_power c (keeps_factor c (keeps_atom c h setting))
  exact keeps_tier c (keeps_tier c (keeps_tier c (keeps_tier c powers _ _) _ _) _ _) _ _

theorem keeps_formula (c : Course R) (setting : Setting) (depth : Nat) :
    Keeps R (formula setting depth : Cursor σ Value) := by
  induction depth with
  | zero => exact keeps_pure c _
  | succ depth ih => exact keeps_comparison c ih setting

theorem course_suffix : Course fun s t : σ => rest t <:+ rest s where
  refl _ := List.suffix_rfl
  trans first second := second.trans first
  move shortens s := by simpa using shortens (rest s)
  cut s := by simp

abbrev Shrinks (m : Cursor σ α) : Prop := Keeps (fun s t => rest t <:+ rest s) m

theorem Shrinks.length_le {m : Cursor σ α} (h : Shrinks m) {a : α} {s t : σ}
    (run : m.run s = .ok a t) : (rest t).length ≤ (rest s).length := by
  have suffix := h s
  rw [run] at suffix
  exact suffix.length_le

end Rule

end Formulary
