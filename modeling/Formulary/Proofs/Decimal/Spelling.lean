import Formulary.Proofs.Decimal.Amount
import Formulary.Proofs.Decimal.Numerals
import Mathlib.Data.List.TakeWhile

set_option autoImplicit false

namespace Formulary.Numeral

open Text

inductive Sign where
  | unwritten
  | plus
  | minus

namespace Sign

def text : Sign → List Char
  | .unwritten => []
  | .plus => ['+']
  | .minus => ['-']

def negative : Sign → Bool
  | .minus => true
  | _ => false

def apply (s : Sign) (n : Int) : Int := if s.negative then -n else n

end Sign

structure Mantissa where
  whole : List Char
  fraction? : Option (List Char)
  digits : Digits (whole ++ fraction?.getD [])
  given : whole ++ fraction?.getD [] ≠ []

namespace Mantissa

variable (m : Mantissa)

def fraction : List Char := m.fraction?.getD []

def text : List Char := m.whole ++ (m.fraction?.map ('.' :: ·)).getD []

def decimal : Decimal := ⟨false, natOf (m.whole ++ m.fraction), -(m.fraction.length : Int)⟩

end Mantissa

structure Exponent where
  mark : Char
  sign : Sign
  digits : List Char
  marked : isExponentMark mark = true
  isDigits : Digits digits
  given : digits ≠ []

namespace Exponent

variable (e : Exponent)

def text : List Char := e.mark :: (e.sign.text ++ e.digits)

def value : Int := e.sign.apply (natOf e.digits)

end Exponent

inductive Body where
  | infinity
  | decimal (mantissa : Mantissa) (exponent? : Option Exponent)

namespace Body

def text : Body → List Char
  | .infinity => infinityWord
  | .decimal m e? => m.text ++ (e?.map Exponent.text).getD []

end Body

def scaled (m : Mantissa) (e? : Option Exponent) : Decimal :=
  { m.decimal with exponent := m.decimal.exponent + (e?.map Exponent.value).getD 0 }

structure Spelling where
  sign : Sign
  body : Body

namespace Spelling

def text (n : Spelling) : List Char := n.sign.text ++ n.body.text

def value (n : Spelling) : Float :=
  match n.body with
  | .infinity => Numeral.infinity n.sign.negative
  | .decimal m e? => { scaled m e? with negative := n.sign.negative }.toFloat

end Spelling

section Signs

theorem sign_text (s : Sign) {cs : List Char}
    (unsigned : ∀ c, cs.head? = some c → c ≠ '-' ∧ c ≠ '+') :
    sign (s.text ++ cs) = ⟨s.negative, cs⟩ := by
  cases s with
  | unwritten =>
      cases cs with
      | nil => rfl
      | cons c cs =>
          obtain ⟨noMinus, noPlus⟩ := unsigned c rfl
          change sign (c :: cs) = ⟨false, c :: cs⟩
          rw [sign]
          · simpa using noMinus
          · simpa using noPlus
  | plus => rfl
  | minus => rfl

theorem exists_sign (cs : List Char) :
    ∃ s : Sign, (sign cs).value = s.negative ∧ cs = s.text ++ (sign cs).rest := by
  rw [sign.eq_def]
  split
  · exact ⟨.minus, rfl, rfl⟩
  · exact ⟨.plus, rfl, rfl⟩
  · exact ⟨.unwritten, rfl, rfl⟩

theorem unsigned_digits {ds : List Char} (digits : Digits ds) (cs : List Char) (given : ds ≠ []) :
    ∀ c, (ds ++ cs).head? = some c → c ≠ '-' ∧ c ≠ '+' := by
  intro c head
  rw [List.head?_append_of_ne_nil _ given] at head
  exact forall_digit (p := fun c => c ≠ '-' ∧ c ≠ '+') (by decide)
    (digits c (List.mem_of_head? head))

end Signs

section Reading

theorem digits_takeWhile (cs : List Char) : Digits (cs.takeWhile isAsciiDigit) :=
  fun _ mem => List.mem_takeWhile_imp mem

theorem mantissa?_text (m : Mantissa) {rest : List Char} (ends : Ends rest)
    (pointless : m.fraction? = none → rest.head? ≠ some '.') :
    mantissa? (m.text ++ rest) = some ⟨m.decimal, rest⟩ := by
  obtain ⟨whole, _ | fraction, digits, given⟩ := m
  · simp only [Option.getD_none, List.append_nil] at digits given
    have read := mantissa?_whole digits given ends (pointless rfl)
    simpa [Mantissa.text, Mantissa.decimal, Mantissa.fraction] using read
  · obtain ⟨digits, digits'⟩ := List.forall_mem_append.mp digits
    have read := mantissa?_point digits digits' given ends
    simpa [Mantissa.text, Mantissa.decimal, Mantissa.fraction] using read

theorem mantissa?_suffix (m : Mantissa) (rest : List Char) :
    ∃ r, mantissa? (m.text ++ rest) = some r ∧ r.rest <:+ rest := by
  obtain ⟨whole, _ | fraction, digits, given⟩ := m
  · simp only [Option.getD_none, List.append_nil] at digits given
    have past : (whole ++ rest).dropWhile isAsciiDigit = rest.dropWhile isAsciiDigit :=
      List.dropWhile_append_of_pos digits
    have some : (whole ++ rest).takeWhile isAsciiDigit ≠ [] := by
      rw [List.takeWhile_append_of_pos digits]
      simp [given]
    have behind : rest.dropWhile isAsciiDigit <:+ rest := List.dropWhile_suffix _
    simp only [Mantissa.text, Option.map_none, Option.getD_none, List.append_nil, mantissa?, past]
    split
    · rename_i more point
      rw [if_neg fun none => some none.1]
      rw [point] at behind
      exact ⟨_, rfl, (List.dropWhile_suffix _).trans ((List.suffix_cons _ _).trans behind)⟩
    · rw [if_neg some]
      exact ⟨_, rfl, behind⟩
  · obtain ⟨whole', digits'⟩ := List.forall_mem_append.mp digits
    simp only [Option.getD_some] at digits' given
    have some : ¬(whole = [] ∧ (fraction ++ rest).takeWhile isAsciiDigit = []) := by
      rw [List.takeWhile_append_of_pos digits']
      rintro ⟨rfl, none⟩
      exact given (by simpa using (List.append_eq_nil_iff.mp none).1)
    simp only [Mantissa.text, Option.map_some, Option.getD_some, List.append_assoc,
      List.cons_append, mantissa?, takeWhile_digits whole' (ends_point _),
      dropWhile_digits whole' (ends_point _), if_neg some,
      List.dropWhile_append_of_pos digits']
    exact ⟨_, rfl, List.dropWhile_suffix _⟩

theorem exists_mantissa {cs : List Char} {r : Prefixed Decimal} (read : mantissa? cs = some r) :
    ∃ m : Mantissa, r.value = m.decimal ∧ cs = m.text ++ r.rest := by
  have whole := List.takeWhile_append_dropWhile (p := isAsciiDigit) (l := cs)
  have digits := digits_takeWhile cs
  rw [mantissa?] at read
  dsimp only at read
  split at read
  · rename_i more point
    split at read
    · cases read
    · rename_i given
      cases read
      rw [point] at whole
      have digits' := digits.append (digits_takeWhile more)
      refine ⟨⟨_, some (more.takeWhile isAsciiDigit), digits', by simpa using given⟩, rfl, ?_⟩
      simp [Mantissa.text, whole]
  · split at read
    · cases read
    · rename_i given
      cases read
      refine ⟨⟨_, none, by simpa using digits, by simpa using given⟩, ?_, ?_⟩
      · simp [Mantissa.decimal, Mantissa.fraction]
      · simp [Mantissa.text, whole]

theorem exponent_text (e : Exponent) {rest : List Char} (ends : Ends rest) :
    exponent (e.text ++ rest) = ⟨e.value, rest⟩ := by
  have signed := sign_text e.sign (unsigned_digits e.isDigits rest e.given)
  simp only [Exponent.text, List.cons_append, List.append_assoc, exponent, signed,
    takeWhile_digits e.isDigits ends, dropWhile_digits e.isDigits ends]
  rw [if_pos ⟨e.marked, e.given⟩]
  rfl

theorem exponent_suffix (cs : List Char) : (exponent cs).rest <:+ cs := by
  cases cs with
  | nil => exact List.suffix_rfl
  | cons c cs =>
      obtain ⟨s, -, signed⟩ := exists_sign cs
      simp only [exponent]
      split
      · have behind : (sign cs).rest <:+ cs := ⟨s.text, signed.symm⟩
        exact (List.dropWhile_suffix _).trans (behind.trans (List.suffix_cons c cs))
      · exact List.suffix_rfl

theorem exponent_suffix_text (e : Exponent) (rest : List Char) :
    (exponent (e.text ++ rest)).rest <:+ rest := by
  have signed := sign_text e.sign (unsigned_digits e.isDigits rest e.given)
  have some : (e.digits ++ rest).takeWhile isAsciiDigit ≠ [] := by
    rw [List.takeWhile_append_of_pos e.isDigits]
    simp [e.given]
  simp only [Exponent.text, List.cons_append, List.append_assoc, exponent, signed,
    List.dropWhile_append_of_pos e.isDigits]
  rw [if_pos ⟨e.marked, some⟩]
  exact List.dropWhile_suffix _

theorem exists_exponent (cs : List Char) :
    ∃ e? : Option Exponent, (exponent cs).value = (e?.map Exponent.value).getD 0 ∧
      cs = (e?.map Exponent.text).getD [] ++ (exponent cs).rest := by
  cases cs with
  | nil => exact ⟨none, rfl, rfl⟩
  | cons c cs =>
      obtain ⟨s, negative, signed⟩ := exists_sign cs
      simp only [exponent]
      split
      · rename_i given
        refine ⟨some ⟨c, s, _, given.1, digits_takeWhile _, given.2⟩, ?_, ?_⟩
        · simp [Exponent.value, Sign.apply, negative]
        · have split := List.takeWhile_append_dropWhile (p := isAsciiDigit) (l := (sign cs).rest)
          simp [Exponent.text, split, ← signed]
      · exact ⟨none, rfl, rfl⟩

end Reading

section Bodies

theorem head_mantissa (m : Mantissa) :
    ∃ c cs, m.text = c :: cs ∧ (isAsciiDigit c = true ∨ c = '.') := by
  obtain ⟨_ | ⟨c, whole⟩, fraction?, digits, given⟩ := m
  · cases fraction? with
    | none => exact absurd rfl given
    | some fraction => exact ⟨'.', fraction, rfl, .inr rfl⟩
  · exact ⟨c, _, rfl, .inl (digits c (by simp))⟩

theorem mem_mantissa (m : Mantissa) : ∀ c ∈ m.text, isAsciiDigit c = true ∨ c = '.' := by
  obtain ⟨whole, fraction?, digits, -⟩ := m
  obtain ⟨digits, digits'⟩ := List.forall_mem_append.mp digits
  refine List.forall_mem_append.mpr ⟨fun c mem => .inl (digits c mem), ?_⟩
  cases fraction? with
  | none => simp
  | some fraction =>
      exact List.forall_mem_cons.mpr ⟨.inr rfl, fun c mem => .inl (digits' c mem)⟩

theorem not_mantissa_of_mark {c : Char} (mark : isExponentMark c = true) :
    isAsciiDigit c = false ∧ c ≠ '.' := by
  simp only [isExponentMark, Bool.or_eq_true, decide_eq_true_eq] at mark
  obtain rfl | rfl := mark <;> decide

theorem mantissa?_marked (m : Mantissa) (e : Exponent) (rest : List Char) :
    mantissa? (m.text ++ (e.text ++ rest)) = some ⟨m.decimal, e.text ++ rest⟩ := by
  obtain ⟨noDigit, noPoint⟩ := not_mantissa_of_mark e.marked
  apply mantissa?_text m
  · rintro c ⟨⟩
    exact noDigit
  · exact fun _ same => noPoint (Option.some.inj same)

variable (m : Mantissa) (e? : Option Exponent)

theorem decimal?_text : decimal? (Body.decimal m e?).text = some ⟨scaled m e?, []⟩ := by
  cases e? with
  | none =>
      have read := mantissa?_text m ends_nil (by simp)
      rw [List.append_nil] at read
      simp [Body.text, decimal?, read, exponent, scaled]
  | some e =>
      have read := mantissa?_marked m e []
      have shift := exponent_text e ends_nil
      rw [List.append_nil] at read shift
      simp [Body.text, decimal?, read, shift, scaled]

theorem scaled_of_text {m m' : Mantissa} {e? e?' : Option Exponent}
    (same : (Body.decimal m e?).text = (Body.decimal m' e?').text) :
    scaled m e? = scaled m' e?' := by
  have read := decimal?_text m e?
  rw [same, decimal?_text m' e?'] at read
  exact (Prefixed.mk.inj (Option.some.inj read)).1.symm

theorem decimal?_suffix (rest : List Char) :
    ∃ r, decimal? ((Body.decimal m e?).text ++ rest) = some r ∧ r.rest <:+ rest := by
  cases e? with
  | none =>
      obtain ⟨r, read, behind⟩ := mantissa?_suffix m rest
      refine ⟨_, by simp [Body.text, decimal?, read]; rfl, ?_⟩
      exact (exponent_suffix r.rest).trans behind
  | some e =>
      have read := mantissa?_marked m e rest
      refine ⟨_, by simp [Body.text, decimal?, read]; rfl, ?_⟩
      exact exponent_suffix_text e rest

theorem exists_decimal {cs : List Char} {r : Prefixed Decimal} (read : decimal? cs = some r) :
    ∃ m e?, r.value = scaled m e? ∧ cs = (Body.decimal m e?).text ++ r.rest := by
  obtain ⟨r', first, rfl⟩ := Option.map_eq_some_iff.mp read
  obtain ⟨m, value, front⟩ := exists_mantissa first
  obtain ⟨e?, shift, behind⟩ := exists_exponent r'.rest
  refine ⟨m, e?, ?_, ?_⟩
  · simp only [scaled, value, shift]
  · simp only [Body.text, List.append_assoc]
    rw [← behind, front]

theorem head_body (b : Body) :
    ∃ c cs, b.text = c :: cs ∧ (isAsciiDigit c = true ∨ c = '.' ∨ c = 'I') := by
  cases b with
  | infinity => exact ⟨'I', _, rfl, .inr (.inr rfl)⟩
  | decimal m e? =>
      obtain ⟨c, cs, text, first⟩ := head_mantissa m
      refine ⟨c, _, by rw [Body.text, text]; rfl, ?_⟩
      exact first.imp_right .inl

theorem sign_body (s : Sign) (b : Body) (rest : List Char) :
    sign (s.text ++ (b.text ++ rest)) = ⟨s.negative, b.text ++ rest⟩ := by
  obtain ⟨c, cs, text, first⟩ := head_body b
  apply sign_text
  rw [text]
  rintro _ ⟨⟩
  obtain digit | rfl | rfl := first
  · exact forall_digit (p := fun c => c ≠ '-' ∧ c ≠ '+') (by decide) digit
  · decide
  · decide

end Bodies

end Formulary.Numeral
