import Formulary.Command.Binding
import Formulary.Proofs.Decimal.Leading
import Formulary.Proofs.Grammar.Literal
import Formulary.Proofs.Grammar.Print
import Formulary.Proofs.Tokens.Cut

set_option autoImplicit false

namespace Formulary

open Decimal Numeral Rule Tape Text Token

namespace Numeral

section Spelled

variable {s : Sign} {m : Mantissa} {e? : Option Exponent} {t : String}

theorem head_spelled (s : Sign) (m : Mantissa) (e? : Option Exponent) {p : Char → Prop}
    (digits : ∀ n : Fin 10, p (Char.ofNat (48 + n)))
    (others : p '.' ∧ p '+' ∧ p '-') :
    ∃ c cs, (⟨s, .decimal m e?⟩ : Spelling).text = c :: cs ∧ p c := by
  cases s with
  | unwritten =>
      obtain ⟨c, cs, text, first⟩ := head_mantissa m
      refine ⟨c, _, by rw [Spelling.text, Body.text, text]; rfl, ?_⟩
      obtain digit | rfl := first
      · exact forall_digit digits digit
      · exact others.1
  | plus => exact ⟨'+', _, rfl, others.2.1⟩
  | minus => exact ⟨'-', _, rfl, others.2.2⟩

variable (text : t.toList = (⟨s, .decimal m e?⟩ : Spelling).text)

include text

theorem signed?_of_spelled : signed? t = some (⟨s, .decimal m e?⟩ : Spelling).value := by
  have signed := sign_body s (.decimal m e?) []
  simp only [List.append_nil] at signed
  rw [signed?, text, Spelling.text, signed, decimal?_text]
  rfl

theorem ofText_of_spelled :
    Value.ofText t = .number (⟨s, .decimal m e?⟩ : Spelling).value := by
  obtain ⟨c, cs, text', low, differs⟩ := head_spelled s m e?
    (p := fun c => c.toNat ≤ 57 ∧ c ≠ '"') (by decide) (by decide)
  rw [text'] at text
  have unquoted : Value.unquoted? t = none := by
    rw [Value.unquoted?, text]
    split
    · simp_all
    · rfl
  rw [Value.ofText, unquoted, boolean?_of_low text low,
    signed?_of_spelled (text.trans text'.symm)]

theorem trimStart_of_spelled : trimStart t.toList = t.toList := by
  obtain ⟨c, cs, text', visible⟩ := head_spelled s m e?
    (p := fun c => isBlank c = false) (by decide) (by decide)
  apply trimStart_of_head
  rw [text, text']
  rintro _ ⟨⟩
  exact visible

theorem longest_of_spelled :
    (⟨s, .decimal m e?⟩ : Spelling).IsLongest (trimStart t.toList) := by
  have read := decimal?_text m e?
  rw [← List.append_nil (Body.decimal m e?).text] at read
  have longest := longest_of_read s [] read
  rw [List.append_nil] at longest
  rwa [trimStart_of_spelled text, text]

end Spelled

theorem exists_spelled {t : String} {x : Float} (read : Value.ofText t = .number x) :
    ∃ s m e?, t.toList = (⟨s, .decimal m e?⟩ : Spelling).text ∧
      (⟨s, .decimal m e?⟩ : Spelling).value = x := by
  have signed : signed? t = some x := by
    rw [Value.ofText] at read
    split at read
    · cases read
    · split at read <;> cases read
      assumption
  obtain ⟨s, negative, front⟩ := exists_sign t.toList
  rw [signed?] at signed
  split at signed
  · rename_i d found
    cases signed
    obtain ⟨m, e?, rfl, digits⟩ := exists_decimal found
    rw [List.append_nil] at digits
    refine ⟨s, m, e?, ?_, ?_⟩
    · rw [Spelling.text, ← digits, ← front]
    · rw [Spelling.value, negative]
  · cases signed

section Evaluated

def Sign.operators : Sign → List Operator.Additive
  | .unwritten => []
  | .plus => [.plus]
  | .minus => [.minus]

@[simp] theorem chars_operators (s : Sign) : chars (signs s.operators) = s.text := by
  cases s <;> rfl

theorem Sign.eq_unwritten_or (s : Sign) :
    s = .unwritten ∨ ∃ o : Operator.Additive, s.text = o.mark.text.toList := by
  cases s with
  | unwritten => exact .inl rfl
  | plus => exact .inr ⟨.plus, rfl⟩
  | minus => exact .inr ⟨.minus, rfl⟩

theorem signed_number (s : Sign) {n : Nat} (small : n ≤ infinityBits) :
    s.operators.foldr Operator.signed (.number (ofSignedBits false n)) =
      .number (ofSignedBits s.negative n) := by
  cases s with
  | minus => exact congrArg Value.number (neg_ofSignedBits small)
  | _ => rfl

def IsFigure (c : Char) : Prop := isAsciiDigit c = true ∨ c = '.' ∨ isExponentMark c = true

theorem word_of_figures {cs : List Char} (given : cs ≠ []) (figures : ∀ c ∈ cs, IsFigure c) :
    IsWord (String.ofList cs) := by
  refine ⟨by simpa using given, fun c mem => ?_⟩
  rw [String.toList_ofList] at mem
  obtain digit | rfl | mark := figures c mem
  · exact forall_digit (p := fun c => isBlank c = false ∧ Separator.ofChar? c = none) (by decide)
      digit
  · decide
  · simp only [isExponentMark, Bool.or_eq_true, decide_eq_true_eq] at mark
    obtain rfl | rfl := mark <;> decide

theorem figures_mantissa (m : Mantissa) : ∀ c ∈ m.text, IsFigure c :=
  fun c mem => (mem_mantissa m c mem).imp_right .inl

theorem literal?_eq_some {w : String} {x : Float} :
    literal? w = some x ↔ ∃ m : Mantissa, w.toList = m.text ∧ m.decimal.toFloat = x := by
  constructor
  · intro read
    rw [literal?] at read
    split at read
    · rename_i d found
      obtain ⟨m, rfl, text⟩ := exists_mantissa found
      exact ⟨m, by simpa using text, Option.some.inj read⟩
    · cases read
  · rintro ⟨m, text, rfl⟩
    have read := mantissa?_text m ends_nil (by simp)
    rw [List.append_nil] at read
    rw [literal?, text, read]

def hasExponent (t : String) : Bool := t.toList.any isExponentMark

theorem unmarked_mantissa (m : Mantissa) : m.text.any isExponentMark = false := by
  rw [List.any_eq_false]
  intro c mem mark
  obtain ⟨noDigit, noPoint⟩ := not_mantissa_of_mark mark
  obtain digit | point := mem_mantissa m c mem
  · exact absurd digit (by simp [noDigit])
  · exact noPoint point

theorem hasExponent_spelled {s : Sign} {m : Mantissa} {e? : Option Exponent} {t : String}
    (text : t.toList = (⟨s, .decimal m e?⟩ : Spelling).text) : hasExponent t = e?.isSome := by
  have unmarked : s.text.any isExponentMark = false := by cases s <;> decide
  rw [hasExponent, text, Spelling.text, Body.text, List.any_append, List.any_append, unmarked,
    unmarked_mantissa]
  cases e? with
  | none => rfl
  | some e => simp [Exponent.text, e.marked]

theorem literal?_of_hasExponent {w : String} (marked : hasExponent w = true) :
    literal? w = none := by
  cases read : literal? w with
  | none => rfl
  | some x =>
      obtain ⟨m, text, -⟩ := literal?_eq_some.mp read
      rw [hasExponent, text, unmarked_mantissa] at marked
      cases marked

theorem startsNumber_mantissa (m : Mantissa) (cs : List Char) :
    startsNumber (String.ofList (m.text ++ cs)) = true := by
  obtain ⟨c, cs', text, first⟩ := head_mantissa m
  simpa [startsNumber, text] using first

theorem startsNumber_digits {ds : List Char} (digits : Digits ds) (given : ds ≠ []) :
    startsNumber (String.ofList ds) = true := by
  obtain ⟨d, ds, rfl⟩ := List.exists_cons_of_ne_nil given
  simp [startsNumber, digits d (List.mem_cons_self ..)]

theorem word_mantissa (m : Mantissa) {cs : List Char} (figures : ∀ c ∈ cs, IsFigure c) :
    IsWord (String.ofList (m.text ++ cs)) := by
  obtain ⟨c, cs', text, -⟩ := head_mantissa m
  exact word_of_figures (by simp [text]) (List.forall_mem_append.mpr ⟨figures_mantissa m, figures⟩)

variable {s : Sign} {m : Mantissa} {t : String}

theorem evaluate_signed_word (setting : Setting) (cs : List Char)
    (text : t.toList = s.text ++ (m.text ++ cs)) (figures : ∀ c ∈ cs, IsFigure c) :
    evaluate setting t = s.operators.foldr Operator.signed
      ((literal? (String.ofList (m.text ++ cs))).elim .numeralError .number) := by
  apply evaluate_signed setting _ (startsNumber_mantissa m cs)
  apply tokens_of_chars (canonical_signs (piece_word (word_mantissa m figures)).canonical (by simp))
  simpa [Token.text] using text

theorem evaluate_plain (setting : Setting) (text : t.toList = s.text ++ m.text) :
    evaluate setting t = .number (⟨s, .decimal m none⟩ : Spelling).value := by
  have read : literal? (String.ofList (m.text ++ [])) =
      some (ofSignedBits false m.decimal.magnitude) := literal?_eq_some.mpr ⟨m, by simp, rfl⟩
  have same : (scaled m none).magnitude = m.decimal.magnitude := by simp [scaled]
  rw [evaluate_signed_word setting [] (by simpa using text) (by simp), read]
  exact (signed_number s (magnitude_le _)).trans (by rw [← same]; rfl)

theorem evaluate_marked (setting : Setting) {e : Exponent}
    (text : t.toList = s.text ++ (m.text ++ e.text)) : evaluate setting t = .numeralError := by
  have digits : ∀ c ∈ e.digits, IsFigure c := fun c mem => .inl (e.isDigits c mem)
  have mark : ∀ c ∈ [e.mark], IsFigure c := by simp [IsFigure, e.marked]
  obtain unsigned | ⟨o, signed⟩ := e.sign.eq_unwritten_or
  · have figures : ∀ c ∈ e.text, IsFigure c := by
      rw [Exponent.text, unsigned]
      exact List.forall_mem_append.mpr ⟨mark, digits⟩
    have none : literal? (String.ofList (m.text ++ e.text)) = none :=
      literal?_of_hasExponent (by simp [hasExponent, Exponent.text, e.marked])
    rw [evaluate_signed_word setting e.text text figures, none]
    exact foldr_signed_error _ _
  · -- The sign cuts the exponent off from its mark, which stays behind the mantissa.
    have none : literal? (String.ofList (m.text ++ [e.mark])) = none :=
      literal?_of_hasExponent (by simp [hasExponent, e.marked])
    have read : tokens t = signs s.operators ++
        [.word (String.ofList (m.text ++ [e.mark])), .mark o.mark,
          .word (String.ofList e.digits)] := by
      apply tokens_of_chars (canonical_signs
        (canonical_sum o (word_mantissa m mark) (word_of_figures e.given digits)) (by simp))
      simpa [Token.text, Exponent.text, signed] using text
    exact evaluate_sum setting read (startsNumber_mantissa m _)
      (startsNumber_digits e.isDigits e.given) none

theorem evaluate_of_spelled (setting : Setting) {e? : Option Exponent}
    (text : t.toList = (⟨s, .decimal m e?⟩ : Spelling).text) :
    evaluate setting t = if hasExponent t then .numeralError
      else .number (⟨s, .decimal m e?⟩ : Spelling).value := by
  rw [hasExponent_spelled text]
  cases e? with
  | none => exact evaluate_plain setting (by simpa [Spelling.text, Body.text] using text)
  | some e => exact evaluate_marked setting (by simpa [Spelling.text, Body.text] using text)

end Evaluated

section Words

variable {t : String}

theorem literal?_word (word : IsWord t) :
    (∃ x, literal? t = some x) ↔ (∃ x, Value.ofText t = .number x) ∧ hasExponent t = false := by
  constructor
  · rintro ⟨x, read⟩
    obtain ⟨m, text, -⟩ := literal?_eq_some.mp read
    have spelled : t.toList = (⟨.unwritten, .decimal m none⟩ : Spelling).text := by
      simpa [Spelling.text, Sign.text, Body.text] using text
    exact ⟨⟨_, ofText_of_spelled spelled⟩, hasExponent_spelled spelled⟩
  · rintro ⟨⟨x, read⟩, plain⟩
    obtain ⟨s, m, e?, text, -⟩ := exists_spelled read
    rw [hasExponent_spelled text] at plain
    obtain rfl : e? = none := by simpa using plain
    obtain rfl | ⟨o, signed⟩ := s.eq_unwritten_or
    · exact ⟨_, literal?_eq_some.mpr
        ⟨m, by simpa [Spelling.text, Sign.text, Body.text] using text, rfl⟩⟩
    · -- A sign is no part of a word.
      obtain ⟨c, mem⟩ := List.exists_mem_of_ne_nil _ (text_ne_nil (t := .mark o.mark) (by simp))
      rw [Spelling.text, signed] at text
      exact absurd mem (isRun_word word c (text ▸ List.mem_append_left _ mem) o.mark)

end Words

end Numeral

/-- What is a number for a variable is one as a whole for each reader, but a formula has no
exponents. A word of a formula that starts like a number is one under the same conditions. -/
theorem readers_agree (setting : Setting) (t : String) :
    (∀ x, Value.ofText t = .number x →
      (∃ n : Spelling, n.text = t.toList ∧ n.IsLongest (trimStart t.toList) ∧ n.value = x) ∧
      leading t = x ∧ evaluate setting t = if hasExponent t then .numeralError else .number x) ∧
    (tokens t = [.word t] → startsNumber t = true →
      ((∃ x, evaluate setting t = .number x) ↔
        (∃ x, Value.ofText t = .number x) ∧ hasExponent t = false) ∧
      ((¬∃ x, evaluate setting t = .number x) → evaluate setting t = .numeralError)) := by
  refine ⟨fun x read => ?_, fun read starts => ?_⟩
  · obtain ⟨s, m, e?, text, rfl⟩ := exists_spelled read
    have longest := longest_of_spelled text
    exact ⟨⟨_, text.symm, longest, rfl⟩, leading_of_longest longest,
      evaluate_of_spelled setting text⟩
  · have word : IsWord t := (canonical_tokens t).words t (by simp [read])
    have read' : tokens t = signs [] ++ [.word t] := read
    have value := evaluate_signed setting read' starts
    rw [List.foldr_nil] at value
    rw [← literal?_word word, value]
    cases literal? t with
    | none => simp [Value.numeralError]
    | some x => simp

theorem readers_agree_apart :
    (Value.ofText "-1.5e+3" = .number (-1500.0) ∧ leading "-1.5e+3" = -1500.0 ∧
      evaluate ⟨[], true⟩ "-1.5e+3" = .numeralError) ∧
    tokens "1.2.3" = [.word "1.2.3"] ∧ startsNumber "1.2.3" = true ∧
      Value.ofText "1.2.3" = .string "1.2.3" ∧ evaluate ⟨[], true⟩ "1.2.3" = .numeralError := by
  have given : Value.ofText "-1.5e+3" = .number (-1500.0) := by rfl
  have text : Value.ofText "1.2.3" = .string "1.2.3" := by rfl
  have read : tokens "1.2.3" = [.word "1.2.3"] := by decide
  have agree := (readers_agree ⟨[], true⟩ "-1.5e+3").1 _ given
  have word := (readers_agree ⟨[], true⟩ "1.2.3").2 read (by decide)
  refine ⟨⟨given, agree.2⟩, read, by decide, text, word.2 ?_⟩
  rw [word.1, text]
  simp

end Formulary
