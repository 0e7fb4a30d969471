import Formulary.Arithmetic
import Formulary.Proofs.Decimal.Overflow
import Formulary.Proofs.Decimal.Spelling
import Mathlib.Data.Nat.Find

set_option autoImplicit false

namespace Formulary.Numeral

open Text

/-- A numeral that a text starts with, and none of those is longer. -/
structure Spelling.IsLongest (n : Spelling) (cs : List Char) : Prop where
  front : n.text <+: cs
  most : ∀ n' : Spelling, n'.text <+: cs → n'.text.length ≤ n.text.length

theorem exists_longest {n : Spelling} {cs : List Char} (front : n.text <+: cs) :
    ∃ longest : Spelling, longest.IsLongest cs := by
  classical
  have some : ∃ n' : Spelling, n'.text <+: cs ∧ n'.text.length = n.text.length := ⟨n, front, rfl⟩
  obtain ⟨longest, front', size⟩ := Nat.findGreatest_spec
    (P := fun size => ∃ n' : Spelling, n'.text <+: cs ∧ n'.text.length = size)
    front.length_le some
  refine ⟨longest, front', fun n' front => ?_⟩
  rw [size]
  exact Nat.le_findGreatest front.length_le ⟨n', front, rfl⟩

section Longest

theorem not_infinity {c : Char} (other : c ≠ 'I') (cs : List Char) :
    infinityWord.isPrefixOf (c :: cs) = false := by
  have word : infinityWord = 'I' :: infinityWord.tail := by decide
  rw [word, List.isPrefixOf_cons_cons, beq_false_of_ne other.symm, Bool.false_and]

theorem infinite_infinity (rest : List Char) :
    infinityWord.isPrefixOf (Body.infinity.text ++ rest) = true :=
  List.isPrefixOf_iff_prefix.mpr (List.prefix_append ..)

theorem finite_decimal (m : Mantissa) (e? : Option Exponent) (rest : List Char) :
    infinityWord.isPrefixOf ((Body.decimal m e?).text ++ rest) = false := by
  obtain ⟨c, cs, text, first⟩ := head_mantissa m
  have other : c ≠ 'I' := by
    obtain digit | rfl := first
    · exact forall_digit (p := fun c => c ≠ 'I') (by decide) digit
    · decide
  rw [Body.text, text]
  exact not_infinity other _

theorem longest_of_read (s : Sign) {m : Mantissa} {e? : Option Exponent} (rest : List Char)
    (read : decimal? ((Body.decimal m e?).text ++ rest) = some ⟨scaled m e?, rest⟩) :
    Spelling.IsLongest ⟨s, .decimal m e?⟩ (s.text ++ ((Body.decimal m e?).text ++ rest)) := by
  refine ⟨⟨rest, List.append_assoc ..⟩, fun ⟨s', b⟩ ⟨rest', whole⟩ => ?_⟩
  rw [Spelling.text, List.append_assoc] at whole
  have signed := congrArg sign whole
  rw [sign_body, sign_body] at signed
  have behind : b.text ++ rest' = (Body.decimal m e?).text ++ rest := congrArg Prefixed.rest signed
  have size := congrArg List.length whole
  have size' := congrArg List.length behind
  simp only [List.length_append] at size size'
  cases b with
  | infinity =>
      have finite := finite_decimal m e? rest
      rw [← behind, infinite_infinity] at finite
      cases finite
  | decimal m' e?' =>
      obtain ⟨r, read', ⟨more, split⟩⟩ := decimal?_suffix m' e?' rest'
      rw [behind, read] at read'
      cases read'
      have shorter := congrArg List.length split
      simp only [List.length_append] at shorter
      simp only [Spelling.text, List.length_append]
      omega

theorem none_of_read {cs : List Char} (finite : infinityWord.isPrefixOf (sign cs).rest = false)
    (none : decimal? (sign cs).rest = none) (n : Spelling) : ¬n.text <+: cs := by
  obtain ⟨s, b⟩ := n
  rintro ⟨rest, rfl⟩
  rw [Spelling.text, List.append_assoc, sign_body] at finite none
  cases b with
  | infinity =>
      rw [infinite_infinity] at finite
      cases finite
  | decimal m e? =>
      obtain ⟨r, read, -⟩ := decimal?_suffix m e? rest
      rw [read] at none
      cases none

end Longest

section Leading

variable {text : String}

theorem leading_of_longest {n : Spelling} (longest : n.IsLongest (trimStart text.toList)) :
    leading text = n.value := by
  obtain ⟨s, b⟩ := n
  obtain ⟨⟨rest, whole⟩, most⟩ := longest
  have signed : sign (trimStart text.toList) = ⟨s.negative, b.text ++ rest⟩ := by
    rw [← whole, Spelling.text, List.append_assoc, sign_body]
  rw [leading, signed]
  cases b with
  | infinity => simp [infinite_infinity, Spelling.value]
  | decimal m e? =>
      have finite := finite_decimal m e? rest
      obtain ⟨r, read, behind⟩ := decimal?_suffix m e? rest
      obtain ⟨m', e?', value, front⟩ := exists_decimal read
      -- What is read is no longer than the longest numeral, so it is this one.
      have shorter : (Body.decimal m' e?').text.length ≤ (Body.decimal m e?).text.length := by
        have most := most ⟨s, .decimal m' e?'⟩ ⟨r.rest, by
          rw [← whole, Spelling.text, Spelling.text, List.append_assoc, List.append_assoc, front]⟩
        simpa [Spelling.text] using most
      have size := congrArg List.length front
      simp only [List.length_append] at size
      have same : r.rest = rest := behind.eq_of_length_le (by omega)
      rw [same] at front
      have decimal := scaled_of_text (List.append_cancel_right front)
      simp [finite, read, value, decimal, Spelling.value]

theorem leading_of_none (none : ∀ n : Spelling, ¬n.text <+: trimStart text.toList) :
    leading text = notANumber := by
  obtain ⟨s, -, signed⟩ := exists_sign (trimStart text.toList)
  rw [leading]
  by_cases front : infinityWord.isPrefixOf (sign (trimStart text.toList)).rest = true
  · obtain ⟨rest, word⟩ := List.isPrefixOf_iff_prefix.mp front
    refine absurd ⟨rest, ?_⟩ (none ⟨s, .infinity⟩)
    rw [Spelling.text, List.append_assoc, Body.text, word, ← signed]
  · cases read : decimal? (sign (trimStart text.toList)).rest with
    | none => simp [front]
    | some r =>
        obtain ⟨m, e?, -, digits⟩ := exists_decimal read
        refine absurd ⟨r.rest, ?_⟩ (none ⟨s, .decimal m e?⟩)
        rw [Spelling.text, List.append_assoc, ← digits, ← signed]

end Leading

section Free

def Body.short : Body → List Char
  | .infinity => "inf".toList
  | b => b.text

def Spelling.short (n : Spelling) : List Char := n.sign.text ++ n.body.short

def IsTyped (c : Char) : Prop := c.toNat < 0x7F ∧ isMargin c = false ∧ c ≠ '_'

instance (c : Char) : Decidable (IsTyped c) :=
  inferInstanceAs (Decidable (c.toNat < 0x7F ∧ isMargin c = false ∧ c ≠ '_'))

theorem typed_digits {ds : List Char} (digits : Digits ds) : ∀ c ∈ ds, IsTyped c :=
  fun c mem => forall_digit (p := IsTyped) (by decide) (digits c mem)

theorem typed_sign (s : Sign) : ∀ c ∈ s.text, IsTyped c := by
  cases s <;> simp [Sign.text, IsTyped, isMargin]

theorem typed_mantissa (m : Mantissa) : ∀ c ∈ m.text, IsTyped c := by
  intro c mem
  obtain digit | rfl := mem_mantissa m c mem
  · exact forall_digit (p := IsTyped) (by decide) digit
  · decide

theorem typed_exponent (e : Exponent) : ∀ c ∈ e.text, IsTyped c := by
  have mark : IsTyped e.mark := by
    have marked := e.marked
    simp only [isExponentMark, Bool.or_eq_true, decide_eq_true_eq] at marked
    obtain same | same := marked <;> rw [same] <;> decide
  exact List.forall_mem_cons.mpr ⟨mark, List.forall_mem_append.mpr
    ⟨typed_sign e.sign, typed_digits e.isDigits⟩⟩

theorem typed_short (n : Spelling) : ∀ c ∈ n.short, IsTyped c := by
  obtain ⟨s, _ | ⟨m, e?⟩⟩ := n
  · have word : ∀ c ∈ Body.short .infinity, IsTyped c := by
      simp [Body.short, IsTyped, isMargin]
    exact List.forall_mem_append.mpr ⟨typed_sign s, word⟩
  · refine List.forall_mem_append.mpr ⟨typed_sign s, List.forall_mem_append.mpr
      ⟨typed_mantissa m, ?_⟩⟩
    cases e? with
    | none => simp
    | some e => exact typed_exponent e

variable {cs : List Char} (typed : ∀ c ∈ cs, IsTyped c)

include typed

theorem plain_typed : plain (String.ofList cs) = cs := by
  have same : cs.map plainChar = cs := by
    conv_rhs => rw [← List.map_id cs]
    exact List.map_congr_left fun c mem => by simp [plainChar, (typed c mem).1]
  have kept {ds : List Char} (typed : ∀ c ∈ ds, IsTyped c) : ds.dropWhile isMargin = ds := by
    cases ds with
    | nil => rfl
    | cons d ds => simp [(typed d (List.mem_cons_self ..)).2.1]
  rw [plain, String.toList_ofList, same, kept typed,
    kept fun c mem => typed c (List.mem_reverse.mp mem), List.reverse_reverse]

theorem ungroup?_typed (isDigit : Char → Bool) (before : Option Char) :
    ungroup? isDigit before cs = some cs := by
  induction cs generalizing before with
  | nil => rfl
  | cons c cs ih =>
      obtain ⟨first, others⟩ := List.forall_mem_cons.mp typed
      rw [ungroup?]
      · rw [ih others, Option.map_some]
      · exact fun same => absurd same first.2.2

omit typed in
theorem asciiLower_decimal (m : Mantissa) (e? : Option Exponent) :
    asciiLower (Body.decimal m e?).text ∉ ["inf", "infinity", "nan"] := by
  obtain ⟨c, cs, text, first⟩ := head_mantissa m
  have low : c.toLower.toNat < 97 := by
    obtain digit | rfl := first
    · exact forall_digit (p := fun c => c.toLower.toNat < 97) (by decide) digit
    · decide
  have head : (asciiLower (Body.decimal m e?).text).toList.head?.all (·.toNat < 97) = true := by
    rw [asciiLower, String.toList_ofList, Body.text, text]
    exact decide_eq_true low
  intro mem
  simp only [List.mem_cons, List.not_mem_nil, or_false] at mem
  obtain same | same | same := mem <;> rw [same] at head <;> revert head <;> decide

omit typed in
theorem freeFloat?_short (n : Spelling) : freeFloat? (String.ofList n.short) = some n.value := by
  have typed := typed_short n
  rw [freeFloat?, plain_typed typed, ungroup?_typed typed]
  obtain ⟨s, _ | ⟨m, e?⟩⟩ := n
  · have signed : sign (s.text ++ Body.short .infinity) = ⟨s.negative, Body.short .infinity⟩ :=
      sign_text s (by simp [Body.short])
    have word : asciiLower (Body.short .infinity) = "inf" := by decide
    simp only [Spelling.short, Option.bind_eq_bind, Option.bind_some, signed, word]
    rfl
  · have signed := sign_body s (.decimal m e?) []
    have other := asciiLower_decimal m e?
    simp only [List.append_nil] at signed
    simp only [Spelling.short, Body.short, Option.bind_eq_bind, Option.bind_some, signed]
    split
    · simp_all
    · simp_all
    · simp_all
    · rw [decimal?_text]
      rfl

end Free

section Host

theorem read_short (n : Spelling) : Arithmetic.read n.short = .ok n.value := by
  rw [Arithmetic.read, freeFloat?_short]

theorem upTo_append (front rest : List Char) : upTo (front ++ rest) rest = front := by
  simp [upTo]

theorem arithmetic_leading (text : String) : Arithmetic.leading text = .ok (leading text) := by
  obtain ⟨s, negative, whole⟩ := exists_sign (trimStart text.toList)
  rw [Arithmetic.leading, front?, leading]
  generalize sign (trimStart text.toList) = r at negative whole ⊢
  rw [whole]
  by_cases infinite : infinityWord.isPrefixOf r.rest = true
  · have read := read_short ⟨s, .infinity⟩
    simp only [infinite, if_true, upTo_append]
    exact read.trans (by rw [negative]; rfl)
  · simp only [infinite]
    cases found : decimal? r.rest with
    | none => rfl
    | some d =>
        obtain ⟨m, e?, value, front⟩ := exists_decimal found
        have read := read_short ⟨s, .decimal m e?⟩
        simp only [Option.map_some, Bool.false_eq_true, if_false]
        rw [front, ← List.append_assoc, upTo_append]
        exact read.trans (by rw [value, negative]; rfl)

end Host

def Spelling.Overflows (n : Spelling) : Prop :=
  match n.body with
  | .infinity => True
  | .decimal m e? => Decimal.overflow ≤ (scaled m e?).amount

theorem isInf_value (n : Spelling) : n.value.isInf = true ↔ n.Overflows := by
  obtain ⟨s, _ | ⟨m, e?⟩⟩ := n
  · have infinite : ∀ negative, (infinity negative).isInf = true := by decide
    exact iff_of_true (infinite s.negative) trivial
  · exact Decimal.isInf_toFloat _

/-- The longest numeral behind the first blanks is read, as the double that the host makes of it and
as an infinity where it overflows; without one there is no number. -/
theorem leading_longest (text : String) :
    (∀ n : Spelling, n.IsLongest (trimStart text.toList) →
      leading text = n.value ∧ freeFloat? (String.ofList n.short) = some (leading text) ∧
        ((leading text).isInf = true ↔ n.Overflows)) ∧
    ((∃ n : Spelling, n.text <+: trimStart text.toList) →
      ∃ n : Spelling, n.IsLongest (trimStart text.toList)) ∧
    ((¬∃ n : Spelling, n.text <+: trimStart text.toList) → (leading text).isNaN = true) ∧
    Arithmetic.leading text = .ok (leading text) := by
  refine ⟨fun n longest => ?_, fun ⟨_, front⟩ => exists_longest front, fun none => ?_,
    arithmetic_leading text⟩
  · have read := leading_of_longest longest
    exact ⟨read, read ▸ freeFloat?_short n, read ▸ isInf_value n⟩
  · rw [leading_of_none fun n front => none ⟨n, front⟩]
    rfl

theorem leading_longest_cut :
    (∃ n : Spelling, n.text = "+1.5".toList ∧ n.IsLongest (trimStart " +1.5e+kg".toList) ∧
      n.value = 1.5) ∧
    leading " +1.5e+kg" = 1.5 ∧
    (¬∃ n : Spelling, n.text <+: trimStart "+Infinit".toList) ∧
    (leading "+Infinit").isNaN = true := by
  have read : Spelling.IsLongest
      ⟨.plus, .decimal ⟨['1'], some ['5'], by decide, by decide⟩ none⟩
      (trimStart " +1.5e+kg".toList) := longest_of_read .plus "e+kg".toList rfl
  have none : ¬∃ n : Spelling, n.text <+: trimStart "+Infinit".toList :=
    fun ⟨n, front⟩ => none_of_read (by decide) (by decide) n front
  have value := ((leading_longest " +1.5e+kg").1 _ read).1
  have half : Spelling.value
      ⟨.plus, .decimal ⟨['1'], some ['5'], by decide, by decide⟩ .none⟩ = 1.5 := by decide +kernel
  exact ⟨⟨_, by decide, read, half⟩, value.trans half, none,
    (leading_longest "+Infinit").2.2.1 none⟩

end Formulary.Numeral
