import Formulary.Decimal.Numeral
import Mathlib.Algebra.Ring.Nat
import Mathlib.Data.List.Basic
import Mathlib.Data.List.Induction

set_option autoImplicit false

namespace Formulary.Numeral

open Text

theorem natOf_eq (ds : List Char) : natOf ds = Nat.ofDigitChars 10 ds 0 := rfl

theorem natOf_append (ds es : List Char) :
    natOf (ds ++ es) = natOf ds * 10 ^ es.length + natOf es := by
  rw [natOf_eq, natOf_eq, natOf_eq, Nat.ofDigitChars_append,
    Nat.ofDigitChars_eq_ofDigitChars_zero (l := es), Nat.mul_comm]

theorem natOf_digits (n : Nat) : natOf (Decimal.digits n) = n := Nat.ofDigitChars_ten_toDigits

theorem digits_ne_nil (n : Nat) : Decimal.digits n ≠ [] := Nat.toDigits_ne_nil

def Digits (ds : List Char) : Prop := ∀ c ∈ ds, isAsciiDigit c = true

instance (ds : List Char) : Decidable (Digits ds) := List.decidableBAll _ ds

theorem digits_digits (n : Nat) : Digits (Decimal.digits n) := by
  intro c mem
  exact Nat.isDigit_of_mem_toDigits (by decide) (by decide) mem

theorem forall_digit {p : Char → Prop} (each : ∀ n : Fin 10, p (Char.ofNat (48 + n))) {c : Char}
    (digit : isAsciiDigit c = true) : p c := by
  have bounds : 48 ≤ c.toNat ∧ c.toNat ≤ 57 := by
    simp only [isAsciiDigit, Bool.and_eq_true, decide_eq_true_eq] at digit
    exact digit
  have holds := each ⟨c.toNat - 48, by omega⟩
  have same : 48 + (c.toNat - 48) = c.toNat := by omega
  simpa [same] using holds

/-- What digits in front of a text do not run into. -/
def Ends (cs : List Char) : Prop := ∀ c, cs.head? = some c → isAsciiDigit c = false

@[simp] theorem ends_nil : Ends [] := by simp [Ends]

@[simp] theorem ends_point (cs : List Char) : Ends ('.' :: cs) := by simp [Ends, isAsciiDigit]

variable {ds whole fraction rest : List Char}

theorem Digits.append (left : Digits whole) (right : Digits fraction) :
    Digits (whole ++ fraction) := by
  intro c mem
  exact (List.mem_append.mp mem).elim (left c) (right c)

theorem natOf_concat (ds : List Char) (c : Char) :
    natOf (ds ++ [c]) = 10 * natOf ds + asciiDigit c := by
  simp [natOf]

theorem asciiDigit_lt {c : Char} (digit : isAsciiDigit c = true) : asciiDigit c < 10 :=
  forall_digit (p := fun c => asciiDigit c < 10) (by decide) digit

theorem digitChar_asciiDigit {c : Char} (digit : isAsciiDigit c = true) :
    (asciiDigit c).digitChar = c :=
  forall_digit (p := fun c => (asciiDigit c).digitChar = c) (by decide) digit

theorem natOf_lt (digits : Digits ds) : natOf ds < 10 ^ ds.length := by
  induction ds using List.reverseRecOn with
  | nil => decide
  | append_singleton ds c ih =>
      obtain ⟨others, last⟩ := List.forall_mem_append.mp digits
      have bound := ih others
      have digit := asciiDigit_lt (last c (List.mem_singleton_self c))
      rw [natOf_concat, List.length_append, List.length_singleton, pow_succ]
      omega

theorem digits_natOf (digits : Digits ds) (given : ds ≠ []) (first : ds.head? ≠ some '0') :
    Decimal.digits (natOf ds) = ds := by
  induction ds using List.reverseRecOn with
  | nil => exact absurd rfl given
  | append_singleton ds c ih =>
      obtain ⟨others, last⟩ := List.forall_mem_append.mp digits
      have digit := last c (List.mem_singleton_self c)
      have single : Decimal.digits (asciiDigit c) = [c] := by
        rw [Decimal.digits, Nat.toDigits_of_lt_base (asciiDigit_lt digit),
          digitChar_asciiDigit digit]
      rw [natOf_concat]
      by_cases alone : ds = []
      · simpa [alone, natOf] using single
      · rw [List.head?_append_of_ne_nil _ alone] at first
        have same := ih others alone first
        have some : 0 < natOf ds := by
          by_contra none
          rw [Nat.eq_zero_of_not_pos none] at same
          rw [← same] at first
          exact first (by decide)
        rw [Decimal.digits, ← Nat.toDigits_append_toDigits (by decide) some (asciiDigit_lt digit)]
        exact congrArg₂ (· ++ ·) same single

theorem takeWhile_digits (digits : Digits ds) (ends : Ends rest) :
    (ds ++ rest).takeWhile isAsciiDigit = ds := by
  rw [List.takeWhile_append_of_pos digits]
  cases rest with
  | nil => simp
  | cons c rest => simp [ends c rfl]

theorem dropWhile_digits (digits : Digits ds) (ends : Ends rest) :
    (ds ++ rest).dropWhile isAsciiDigit = rest := by
  rw [List.dropWhile_append_of_pos digits]
  cases rest with
  | nil => rfl
  | cons c rest => simp [ends c rfl]

theorem mantissa?_whole (digits : Digits ds) (given : ds ≠ []) (ends : Ends rest)
    (pointless : rest.head? ≠ some '.') :
    mantissa? (ds ++ rest) = some ⟨⟨false, natOf ds, 0⟩, rest⟩ := by
  rw [mantissa?, takeWhile_digits digits ends, dropWhile_digits digits ends]
  split
  · simp at pointless
  · simp [given]

theorem mantissa?_point (digits : Digits whole) (digits' : Digits fraction)
    (given : whole ++ fraction ≠ []) (ends : Ends rest) :
    mantissa? (whole ++ '.' :: (fraction ++ rest)) =
      some ⟨⟨false, natOf (whole ++ fraction), -(fraction.length : Int)⟩, rest⟩ := by
  rw [mantissa?, takeWhile_digits digits (ends_point _), dropWhile_digits digits (ends_point _)]
  have given' : ¬(whole = [] ∧ fraction = []) := by simpa using given
  simp [takeWhile_digits digits' ends, dropWhile_digits digits' ends, given']

end Formulary.Numeral
