import Formulary.Proofs.Decimal.Amount
import Formulary.Proofs.Decimal.Bits

set_option autoImplicit false

namespace Formulary.Decimal

section Rounding

variable {num den n : Nat} (denominator : 0 < den)

theorem roundDiv_near (num den : Nat) :
    num / den ≤ roundDiv num den ∧ roundDiv num den ≤ num / den + 1 := by
  rw [roundDiv]
  split
  · omega
  · split <;> omega

include denominator

theorem le_roundDiv (even : n % 2 = 0) (some : 0 < n) :
    n ≤ roundDiv num den ↔ (2 * n - 1) * den ≤ 2 * num := by
  have whole := Nat.div_add_mod' num den
  have part := Nat.mod_lt num denominator
  obtain ⟨least, most⟩ := roundDiv_near num den
  obtain near | rfl | far : n ≤ num / den ∨ n = num / den + 1 ∨ num / den + 2 ≤ n := by omega
  · have bound : (2 * n - 1) * den ≤ 2 * (num / den) * den :=
      Nat.mul_le_mul_right den (by omega)
    have below := Nat.div_mul_le_self num den
    exact iff_of_true (near.trans least) (by linarith)
  · have odd : num / den % 2 = 1 := by omega
    have unit : (2 * (num / den + 1) - 1) * den = 2 * (num / den * den) + den := by
      rw [show 2 * (num / den + 1) - 1 = 2 * (num / den) + 1 by omega]
      ring
    rw [unit, roundDiv, odd]
    split
    · omega
    · split <;> omega
  · have bound : (2 * (num / den) + 3) * den ≤ (2 * n - 1) * den :=
      Nat.mul_le_mul_right den (by omega)
    exact iff_of_false (by omega) (by linarith)

theorem le_rounded (even : n % 2 = 0) (some : 0 < n) (q : Int) :
    n ≤ roundDiv (num * Nat.pow 2 (-q).toNat) (den * Nat.pow 2 q.toNat) ↔
      ((2 * n - 1 : Nat) : ℚ) * 2 ^ (q - 1) ≤ num / den := by
  have power := zpow_eq_div (b := 2) (by decide) q
  have positive : (0 : ℚ) < den := Nat.cast_pos.mpr denominator
  have scaled : 0 < den * 2 ^ q.toNat := by positivity
  have above : (0 : ℚ) < 2 ^ (-q).toNat := by positivity
  rw [Nat.pow_eq, Nat.pow_eq, le_roundDiv scaled even some, ← Nat.cast_le (α := ℚ),
    zpow_sub_one₀ two_ne_zero, le_div_iff₀ positive]
  push_cast at power ⊢
  rw [power]
  field_simp

end Rounding

/-- What from here on is nearer to the power of two after the largest double, or as near. -/
def overflow : ℚ := (2 * 2 ^ 53 - 1 : Nat) * 2 ^ (970 : Int)

theorem le_overflow : (2 : ℚ) ^ (1023 : Int) ≤ overflow := by
  have split : (2 : ℚ) ^ (1023 : Int) = 2 ^ (53 : Int) * 2 ^ (970 : Int) := by
    rw [← zpow_add₀ two_ne_zero]
    rfl
  rw [split, overflow]
  exact mul_le_mul_of_nonneg_right (by norm_num) (zpow_pos two_pos _).le

theorem overflow_le : overflow ≤ (2 : ℚ) ^ (1024 : Int) := by
  have split : (2 : ℚ) ^ (1024 : Int) = 2 ^ (54 : Int) * 2 ^ (970 : Int) := by
    rw [← zpow_add₀ two_ne_zero]
    rfl
  rw [split, overflow]
  exact mul_le_mul_of_nonneg_right (by norm_num) (zpow_pos two_pos _).le

section Nearest

variable {num den : Nat} (numerator : 0 < num) (denominator : 0 < den)

include denominator

theorem rounded_lt {q : Int} (less : (num : ℚ) / den < 2 ^ (q + 53)) :
    roundDiv (num * Nat.pow 2 (-q).toNat) (den * Nat.pow 2 q.toNat) < 2 ^ 53 + 2 := by
  by_contra most
  have reached := (le_rounded denominator (by decide) (by decide) q).mp (Nat.not_lt.mp most)
  have split : (2 : ℚ) ^ (q + 53) = 2 ^ (54 : Int) * 2 ^ (q - 1) := by
    rw [← zpow_add₀ two_ne_zero]
    congr 1
    omega
  have more : (2 : ℚ) ^ (q + 53) ≤ (2 * (2 ^ 53 + 2) - 1 : Nat) * 2 ^ (q - 1) := by
    rw [split]
    exact mul_le_mul_of_nonneg_right (by norm_num) (zpow_pos two_pos _).le
  exact absurd (more.trans reached) (not_le.mpr less)

theorem le_rounded_of_le {q : Int} (least : (2 : ℚ) ^ (q + 52) ≤ num / den) :
    2 ^ 52 ≤ roundDiv (num * Nat.pow 2 (-q).toNat) (den * Nat.pow 2 q.toNat) := by
  have split : (2 : ℚ) ^ (q + 52) = 2 ^ (53 : Int) * 2 ^ (q - 1) := by
    rw [← zpow_add₀ two_ne_zero]
    congr 1
    omega
  rw [le_rounded denominator (by decide) (by decide)]
  apply le_trans _ least
  rw [split]
  exact mul_le_mul_of_nonneg_right (by norm_num) (zpow_pos two_pos _).le

include numerator

theorem nearestBits_eq_infinityBits :
    nearestBits num den = infinityBits ↔ overflow ≤ num / den := by
  have positive : (0 : ℚ) < num / den := by positivity
  have le (k : Int) : (2 : ℚ) ^ k ≤ num / den ↔ k ≤ Int.log 2 ((num : ℚ) / den) := by
    rw [← Int.zpow_le_iff_le_log (by decide) positive, Nat.cast_ofNat]
  have lt (k : Int) : (num : ℚ) / den < 2 ^ k ↔ Int.log 2 ((num : ℚ) / den) < k := by
    rw [← Int.lt_zpow_iff_log_lt (by decide) positive, Nat.cast_ofNat]
  have unit : unitExponent num den = max (Int.log 2 ((num : ℚ) / den) - 52) (-1074) := by
    rw [unitExponent, floorLog2_eq numerator denominator]
  have bits : nearestBits num den = infinityBits ↔ infinityBits ≤
      (unitExponent num den + 1074).toNat * fullBits +
        roundDiv (num * Nat.pow 2 (-unitExponent num den).toNat)
          (den * Nat.pow 2 (unitExponent num den).toNat) := by
    rw [nearestBits, if_neg numerator.ne']
    exact min_eq_left_iff
  rw [bits]
  generalize unitExponent num den = q at unit
  simp only [infinityBits, fullBits]
  obtain more | rfl | less : 972 ≤ q ∨ q = 971 ∨ q < 971 := by omega
  · have reached := le_rounded_of_le denominator (q := q) ((le _).mpr (by omega))
    have beyond := (le 1024).mpr (by omega)
    exact iff_of_true (by omega) (overflow_le.trans beyond)
  · have unit : overflow = (2 * 2 ^ 53 - 1 : Nat) * 2 ^ (971 - 1 : Int) := rfl
    rw [unit, ← le_rounded denominator (n := 2 ^ 53) (by decide) (by decide) 971]
    omega
  · have missed := rounded_lt denominator (q := q) ((lt _).mpr (by omega))
    have below := (lt 1023).mpr (by omega)
    exact iff_of_false (by omega) (not_le.mpr (below.trans_le le_overflow))

end Nearest

variable (d : Decimal)

theorem magnitude_le : d.magnitude ≤ infinityBits := by
  rw [magnitude]
  split
  · exact Nat.zero_le _
  · split
    · exact Nat.le_refl _
    · split
      · exact Nat.zero_le _
      · rw [nearestBits]
        split
        · exact Nat.zero_le _
        · exact Nat.min_le_left ..

theorem magnitude_eq_infinityBits : d.magnitude = infinityBits ↔ overflow ≤ d.amount := by
  by_cases none : d.coefficient = 0
  · have positive : 0 < overflow := (zpow_pos two_pos _).trans_le le_overflow
    rw [magnitude, if_pos none, amount_eq_zero.mpr none]
    exact iff_of_false (by decide) (not_le.mpr positive)
  · rw [magnitude, if_neg none]
    split
    · rename_i large
      have beyond := mt (point_le none (n := 310)) (Int.not_le.mpr large)
      exact iff_of_true rfl (overflow_le.trans (largest_lt.le.trans (not_lt.mp beyond)))
    · split
      · rename_i small
        have below := mt (lt_point none (n := -330)) (Int.not_lt.mpr small.le)
        have tiny : (2 : ℚ) ^ (-1074 : Int) ≤ 2 ^ (1023 : Int) :=
          zpow_le_zpow_right₀ one_le_two (by decide)
        have less := (not_le.mp below).trans_le (lt_least.trans (tiny.trans le_overflow))
        exact iff_of_false (by decide) (not_le.mpr less)
      · have ratio := ratio_eq_amount d
        rw [nearestBits_eq_infinityBits _ (pow_ten_pos _), ratio]
        exact Nat.mul_pos (Nat.pos_of_ne_zero none) (pow_ten_pos _)

/-- A decimal is read as an infinity from the middle between the largest double and the next power
of two on. -/
theorem isInf_toFloat : d.toFloat.isInf = true ↔ overflow ≤ d.amount := by
  rw [isInf_iff, toFloat, magnitudeBits_ofSignedBits _ (magnitude_le d),
    magnitude_eq_infinityBits]

end Formulary.Decimal
