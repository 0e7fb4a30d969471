import Formulary.Formula.Rule

set_option autoImplicit false

namespace Formulary

open Tape

def Token.isName (w : String) : Bool :=
  !Rule.startsNumber w && !Token.isKeyword w && Rule.hasNameStart w

def Function.admits (name : String) (position : Nat) : Bool :=
  ((builtIn.find? name).map (·.admitsErrorAt position)).getD false

def Cursor.last {σ α : Type} : EStateM.Result Fault σ α → σ
  | .ok _ s => s
  | .error _ s => s

namespace Rule

variable {σ : Type} [Tape σ] {α β : Type}

def advanced (s : σ) : σ := move (fun ts => skipSpaces ts.tail) s

@[simp] theorem rest_advanced (s : σ) : rest (advanced s) = skipSpaces (rest s).tail :=
  rest_move _ _

@[simp] theorem rest_list (ts : List Token) : rest ts = ts := rfl

@[simp] theorem run_peek (s : σ) : (peek : Cursor σ _).run s = .ok (rest s).head? s := rfl

@[simp] theorem run_atMark (m : Separator) (s : σ) :
    (atMark m : Cursor σ _).run s = .ok ((rest s).head? == some (.mark m)) s := rfl

@[simp] theorem run_size (s : σ) : (size : Cursor σ _).run s = .ok (rest s).length s := rfl

@[simp] theorem run_advance (s : σ) : (advance : Cursor σ _).run s = .ok () (advanced s) := rfl

theorem run_expect (m : Separator) (s : σ) :
    (expect m : Cursor σ _).run s =
      if (rest s).head? = some (.mark m) then .ok () (advanced s)
      else .error (.unexpected m (rest s).head?) s := by
  simp only [expect, EStateM.run_bind, run_peek]
  split <;> rfl

theorem run_expect_eq_ok {m : Separator} {s u : σ} {a : Unit}
    (run : (expect m : Cursor σ _).run s = .ok a u) :
    (rest s).head? = some (.mark m) ∧ u = advanced s := by
  rw [run_expect] at run
  split at run
  · rename_i found
    cases run
    exact ⟨found, rfl⟩
  · cases run

theorem run_expect_eq_error {m : Separator} {s u : σ} {f : Fault}
    (run : (expect m : Cursor σ Unit).run s = .error f u) :
    (rest s).head? ≠ some (.mark m) ∧ f = .unexpected m (rest s).head? := by
  rw [run_expect] at run
  split at run
  · cases run
  · rename_i missing
    cases run
    exact ⟨missing, rfl⟩

theorem word_name {w : String} (name : Token.isName w = true) (setting : Setting)
    (inner : Cursor σ Value) : word setting inner w = identifier setting inner w := by
  simp only [Token.isName, Bool.and_eq_true, Bool.not_eq_true'] at name
  obtain ⟨⟨noNumber, noKeyword⟩, starts⟩ := name
  have truth : Token.boolean? w = none := by simpa [Token.isKeyword] using noKeyword
  rw [word, if_neg (by simp [noNumber]), truth]
  dsimp only
  rw [if_pos starts]

omit [Tape σ] in
theorem run_lift_eq_ok {e : Except Fault α} {s t : σ} {a : α}
    (run : (lift e : Cursor σ α).run s = .ok a t) : e = .ok a ∧ t = s := by
  cases e with
  | error f => cases run
  | ok b =>
      cases run
      exact ⟨rfl, rfl⟩

omit [Tape σ] in
theorem run_lift_eq_error {e : Except Fault α} {s u : σ} {f : Fault}
    (run : (lift e : Cursor σ α).run s = .error f u) : e = .error f := by
  cases e with
  | ok a => cases run
  | error g =>
      cases run
      rfl

omit [Tape σ] in
theorem run_bind_ok {m : Cursor σ α} {f : α → Cursor σ β} {s t : σ} {a : α}
    (run : m.run s = .ok a t) : (m >>= f).run s = (f a).run t := by
  rw [EStateM.run_bind, run]

omit [Tape σ] in
theorem run_bind_error {m : Cursor σ α} {f : α → Cursor σ β} {s t : σ} {e : Fault}
    (run : m.run s = .error e t) : (m >>= f).run s = .error e t := by
  rw [EStateM.run_bind, run]

omit [Tape σ] in
theorem run_bind_eq_ok {m : Cursor σ α} {f : α → Cursor σ β} {s u : σ} {b : β}
    (run : (m >>= f).run s = .ok b u) : ∃ a t, m.run s = .ok a t ∧ (f a).run t = .ok b u := by
  rw [EStateM.run_bind] at run
  cases first : m.run s with
  | ok a t => exact ⟨a, t, rfl, by rwa [first] at run⟩
  | error e t => rw [first] at run; cases run

omit [Tape σ] in
theorem run_bind_eq_error {m : Cursor σ α} {g : α → Cursor σ β} {s u : σ} {f : Fault}
    (run : (m >>= g).run s = .error f u) :
    m.run s = .error f u ∨ ∃ a t, m.run s = .ok a t ∧ (g a).run t = .error f u := by
  rw [EStateM.run_bind] at run
  cases first : m.run s with
  | ok a t => exact .inr ⟨a, t, rfl, by rwa [first] at run⟩
  | error e t =>
      rw [first] at run
      cases run
      exact .inl rfl

omit [Tape σ] in
theorem run_bind_congr {m : Cursor σ α} {f g : α → Cursor σ β} {s : σ}
    (same : ∀ a t, m.run s = .ok a t → (f a).run t = (g a).run t) :
    (m >>= f).run s = (m >>= g).run s := by
  rw [EStateM.run_bind, EStateM.run_bind]
  cases run : m.run s with
  | ok a t => exact same a t run
  | error e t => rfl

def close (signature? : Option Signature) : Arguments → Cursor σ Value
  | .abandoned e => surface e
  | .complete args refused => do
      expect .rightBracket
      lift (answer signature? args refused)

theorem call_eq (legacy : Bool) (inner : Cursor σ Value) (name : String) :
    call legacy inner name =
      if (Function.builtIn.find? name).isNone && legacy then surface .nameError
      else (do
        advance
        close (Function.builtIn.find? name) (← listed inner legacy (Function.admits name))) := rfl

theorem skipSpaces_suffix (ts : List Token) : skipSpaces ts <:+ ts := List.dropWhile_suffix _

theorem skipSpaces_tail_suffix (ts : List Token) : skipSpaces ts.tail <:+ ts :=
  (skipSpaces_suffix _).trans (List.tail_suffix _)

theorem advanced_shorter {s : σ} {t : Token} (h : (rest s).head? = some t) :
    (rest (advanced s)).length < (rest s).length := by
  obtain ⟨us, hus⟩ := List.head?_eq_some_iff.mp h
  have shorter := (skipSpaces_suffix us).length_le
  simp only [rest_advanced, hus, List.tail_cons, List.length_cons]
  omega

section Quotation

def closing (s : σ) : σ := move (fun ts => ts.dropWhile (· != .mark .quote)) (move List.tail s)

theorem rest_closing (s : σ) :
    rest (closing s) = (rest s).tail.dropWhile (· != .mark .quote) := by
  simp [closing]

theorem run_quotation (s : σ) :
    (quotation : Cursor σ Value).run s =
      (do
        expect .quote
        return .string (String.join (((rest (move List.tail s)).takeWhile
          (· != .mark .quote)).map Token.text)) : Cursor σ Value).run (closing s) := rfl

variable {content : List Token} (unquoted : .mark .quote ∉ content)

include unquoted in
theorem ne_quote_of_unquoted : ∀ t ∈ content, (t != .mark .quote) = true := by
  intro t mem
  have differs : t ≠ .mark .quote := fun same => unquoted (same ▸ mem)
  simpa using differs

include unquoted in
theorem run_quotation_closed {s : σ} {ts : List Token}
    (here : rest s = .mark .quote :: (content ++ .mark .quote :: ts)) :
    (quotation : Cursor σ Value).run s =
        .ok (.string (String.join (content.map Token.text))) (advanced (closing s)) ∧
      rest (advanced (closing s)) = skipSpaces ts := by
  have inside := ne_quote_of_unquoted unquoted
  have taken : (rest (move List.tail s)).takeWhile (· != .mark .quote) = content := by
    simp [here, List.takeWhile_append_of_pos inside]
  have dropped : rest (closing s) = .mark .quote :: ts := by
    rw [rest_closing, here]
    simp [List.dropWhile_append_of_pos inside]
  have closed := run_expect .quote (closing s)
  rw [dropped, List.head?_cons, if_pos rfl] at closed
  rw [run_quotation, taken, run_bind_ok closed]
  exact ⟨rfl, by rw [rest_advanced, dropped, List.tail_cons]⟩

include unquoted in
theorem run_quotation_open {s : σ} (here : rest s = .mark .quote :: content) :
    (quotation : Cursor σ Value).run s = .error (.unexpected .quote none) (closing s) ∧
      rest (closing s) = [] := by
  have dropped : rest (closing s) = [] := by
    rw [rest_closing, here]
    have none : (content ++ []).dropWhile (fun t => t != Token.mark .quote) = [] :=
      List.dropWhile_append_of_pos (ne_quote_of_unquoted unquoted)
    simpa using none
  have closed := run_expect .quote (closing s)
  rw [dropped, List.head?_nil, if_neg (by simp)] at closed
  rw [run_quotation, run_bind_error closed]
  exact ⟨rfl, dropped⟩

end Quotation

end Rule

end Formulary
