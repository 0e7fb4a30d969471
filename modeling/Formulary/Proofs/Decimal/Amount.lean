import Formulary.Decimal.Shortest
import Formulary.Proofs.Decimal.Rounding

set_option autoImplicit false

namespace Formulary.Decimal

def amount (d : Decimal) : ℚ := d.coefficient * 10 ^ d.exponent

theorem digitCount_pos (n : Nat) : 0 < digitCount n := Nat.length_toDigits_pos

theorem lt_pow_digitCount (n : Nat) : n < 10 ^ digitCount n :=
  (Nat.length_toDigits_le_iff (by decide) (digitCount_pos n)).mp (Nat.le_refl _)

theorem pow_digitCount_le {n : Nat} (some : n ≠ 0) : 10 ^ (digitCount n - 1) ≤ n := by
  by_contra less
  have positive := digitCount_pos n
  by_cases single : digitCount n = 1
  · rw [single] at less
    exact less (Nat.pos_of_ne_zero some)
  · have shorter : digitCount n ≤ digitCount n - 1 :=
      (Nat.length_toDigits_le_iff (by decide) (by omega)).mpr (Nat.not_le.mp less)
    omega

variable {d d' : Decimal} {bits : Nat}

theorem amount_eq_zero : d.amount = 0 ↔ d.coefficient = 0 := by
  have power : (10 : ℚ) ^ d.exponent ≠ 0 := (zpow_pos (by decide) _).ne'
  rw [amount, mul_eq_zero_iff_right power, Nat.cast_eq_zero]

theorem amount_pos (some : d.coefficient ≠ 0) : 0 < d.amount :=
  mul_pos (Nat.cast_pos.mpr (Nat.pos_of_ne_zero some)) (zpow_pos (by decide) _)

theorem point_eq (some : d.coefficient ≠ 0) : d.point = Int.log 10 d.amount + 1 := by
  have positive := amount_pos some
  have count := digitCount_pos d.coefficient
  have scale : (0 : ℚ) < 10 ^ d.exponent := zpow_pos (by decide) _
  have least : d.point - 1 ≤ Int.log 10 d.amount := by
    have first : (10 : ℚ) ^ (digitCount d.coefficient - 1) ≤ d.coefficient := by
      exact_mod_cast pow_digitCount_le some
    have place : d.point - 1 = (digitCount d.coefficient - 1 : Nat) + d.exponent := by
      rw [point]
      omega
    rw [← Int.zpow_le_iff_le_log (by decide) positive, Nat.cast_ofNat, place,
      zpow_add₀ (by decide), zpow_natCast]
    exact mul_le_mul_of_nonneg_right first scale.le
  have most : Int.log 10 d.amount < d.point := by
    have bound : (d.coefficient : ℚ) < 10 ^ digitCount d.coefficient := by
      exact_mod_cast lt_pow_digitCount d.coefficient
    rw [← Int.lt_zpow_iff_log_lt (by decide) positive, Nat.cast_ofNat, point, add_comm,
      zpow_add₀ (by decide), zpow_natCast]
    exact mul_lt_mul_of_pos_right bound scale
  omega

theorem pow_ten_pos (n : Nat) : 0 < Nat.pow 10 n := Nat.pow_pos (by decide)

theorem ratio_eq_amount (d : Decimal) :
    ((d.coefficient * Nat.pow 10 d.exponent.toNat : Nat) : ℚ) /
      (Nat.pow 10 (-d.exponent).toNat : Nat) = d.amount := by
  have power := zpow_eq_div (b := 10) (by decide) d.exponent
  rw [Nat.cast_ofNat] at power
  rw [amount, power, Nat.cast_mul, mul_div_assoc, Nat.pow_eq, Nat.pow_eq]

theorem magnitude_congr (same : d.amount = d'.amount) : d.magnitude = d'.magnitude := by
  have none_iff : d.coefficient = 0 ↔ d'.coefficient = 0 := by
    rw [← amount_eq_zero, same, amount_eq_zero]
  by_cases none : d.coefficient = 0
  · rw [magnitude, magnitude, if_pos none, if_pos (none_iff.mp none)]
  · have none' := mt none_iff.mpr none
    have point : d.point = d'.point := by rw [point_eq none, point_eq none', same]
    have nearest := nearestBits_congr (pow_ten_pos _) (pow_ten_pos _)
      ((ratio_eq_amount d).trans (same.trans (ratio_eq_amount d').symm))
    rw [magnitude, magnitude, if_neg none, if_neg none', point, nearest]

theorem point_le (some : d.coefficient ≠ 0) {n : Int} (less : d.amount < 10 ^ n) :
    d.point ≤ n := by
  rw [point_eq some, Int.add_one_le_iff, ← Int.lt_zpow_iff_log_lt (by decide) (amount_pos some)]
  exact_mod_cast less

theorem lt_point (some : d.coefficient ≠ 0) {n : Int} (least : 10 ^ n ≤ d.amount) :
    n < d.point := by
  rw [point_eq some, Int.lt_add_one_iff, ← Int.zpow_le_iff_le_log (by decide) (amount_pos some)]
  exact_mod_cast least

theorem largest_lt : (2 : ℚ) ^ (1024 : Int) < 10 ^ (310 : Int) := by
  have bound : 2 ^ 1024 < 10 ^ 310 := by decide +kernel
  exact_mod_cast bound

theorem lt_least : (10 : ℚ) ^ (-330 : Int) ≤ 2 ^ (-1074 : Int) := by
  have bound : 2 ^ 1074 ≤ 10 ^ 330 := by decide +kernel
  rw [zpow_neg, zpow_neg]
  apply inv_anti₀ (zpow_pos two_pos _)
  exact_mod_cast bound

theorem magnitude_exact (finite : bits < infinityBits) (exact : d.amount = amountOfBits bits) :
    d.magnitude = bits := by
  by_cases zero : bits = 0
  · have none : d.coefficient = 0 := by
      rw [← amount_eq_zero, exact, amountOfBits_eq_zero finite, zero]
    rw [magnitude, if_pos none, zero]
  · have some : d.coefficient ≠ 0 := by
      rw [Ne, ← amount_eq_zero, exact, amountOfBits_eq_zero finite]
      exact zero
    have large : d.point ≤ 310 := by
      apply point_le some
      rw [exact]
      exact (amountOfBits_lt finite).trans largest_lt
    have small : -330 < d.point := by
      apply lt_point some
      rw [exact]
      exact lt_least.trans (le_amountOfBits finite zero)
    rw [magnitude, if_neg some, if_neg (Int.not_lt.mpr large), if_neg (Int.not_lt.mpr small.le)]
    exact nearestBits_exact finite (pow_ten_pos _) ((ratio_eq_amount d).trans exact)

def Reduced (d : Decimal) : Prop := d.coefficient % 10 ≠ 0

theorem Reduced.some (reduced : d.Reduced) : d.coefficient ≠ 0 := by
  intro none
  exact reduced (by rw [none])

theorem Reduced.exponent_le (reduced : d.Reduced) (same : d.amount = d'.amount) :
    d'.exponent ≤ d.exponent := by
  by_contra above
  -- Otherwise the difference of the exponents is a zero at the end of the coefficient.
  obtain ⟨n, shift⟩ : ∃ n : Nat, d'.exponent = d.exponent + 1 + n :=
    ⟨(d'.exponent - d.exponent - 1).toNat, by omega⟩
  have power : (10 : ℚ) ^ d.exponent ≠ 0 := (zpow_pos (by decide) _).ne'
  have tens : (d.coefficient : ℚ) = (d'.coefficient * 10 ^ n * 10 : Nat) := by
    rw [amount, amount, shift, zpow_add₀ (by decide), zpow_add_one₀ (by decide)] at same
    apply mul_right_cancel₀ power
    rw [same, zpow_natCast]
    push_cast
    ring
  apply reduced
  rw [Nat.cast_inj.mp tens, Nat.mul_mod_left]

theorem Reduced.unique (reduced : d.Reduced) (reduced' : d'.Reduced) (same : d.amount = d'.amount) :
    d.coefficient = d'.coefficient ∧ d.exponent = d'.exponent := by
  have exponent : d.exponent = d'.exponent :=
    le_antisymm (reduced'.exponent_le same.symm) (reduced.exponent_le same)
  have power : (10 : ℚ) ^ d'.exponent ≠ 0 := (zpow_pos (by decide) _).ne'
  rw [amount, amount, exponent] at same
  exact ⟨Nat.cast_inj.mp (mul_right_cancel₀ power same), exponent⟩

section Shortest

theorem magnitude_neighbour {num den : Nat} {k : Int} {c : Nat}
    (found : neighbour? bits num den k = some c) : magnitude ⟨false, c, k⟩ = bits := by
  simp only [neighbour?] at found
  split at found
  · rename_i below _
    cases found
    exact beq_iff_eq.mp below
  · rename_i _ above
    cases found
    exact beq_iff_eq.mp above
  · rename_i below above
    -- A tie goes to the even neighbour.
    have either : c = scaleUp num (-k) / scaleUp den k ∨
        c = scaleUp num (-k) / scaleUp den k + 1 := by
      split at found
      · exact .inl (Option.some.inj found).symm
      · split at found
        · exact .inr (Option.some.inj found).symm
        · have even := Option.some.inj found
          omega
    obtain rfl | rfl := either
    · exact beq_iff_eq.mp below
    · exact beq_iff_eq.mp above
  · cases found

theorem amount_shortestFrom_zero (bits num den : Nat) (place : Int) (count : Nat) :
    (shortestFrom bits num den place 0 count).amount = amountOfBits bits := by
  rw [shortestFrom, amountOfBits]
  dsimp only
  split
  · rename_i fraction
    have cancel : ((5 : ℚ) ^ (-(significand bits).2).toNat) * 5 ^ (significand bits).2 = 1 := by
      rw [← zpow_natCast, Int.toNat_of_nonneg (by omega), ← zpow_add₀ (by decide), neg_add_cancel,
        zpow_zero]
    have ten : (10 : ℚ) = 5 * 2 := by norm_num
    calc amount ⟨false, _, _⟩
      _ = (significand bits).1 * (5 ^ (-(significand bits).2).toNat * 5 ^ (significand bits).2) *
          2 ^ (significand bits).2 := by
          rw [amount, ten, mul_zpow, Nat.pow_eq]
          push_cast
          ring
      _ = (significand bits).1 * 2 ^ (significand bits).2 := by rw [cancel, mul_one]
  · rename_i whole
    have power : (2 : ℚ) ^ (significand bits).2 = 2 ^ (significand bits).2.toNat := by
      rw [← zpow_natCast, Int.toNat_of_nonneg (by omega)]
    simp [amount, power]

theorem magnitude_shortestFrom (finite : bits < infinityBits) (num den : Nat) (place : Int)
    (tries count : Nat) : (shortestFrom bits num den place tries count).magnitude = bits := by
  induction tries generalizing count with
  | zero => exact magnitude_exact finite (amount_shortestFrom_zero ..)
  | succ tries ih =>
      rw [shortestFrom]
      split
      · rename_i c found
        exact magnitude_neighbour found
      · exact ih _

theorem amount_stripZeros (fuel : Nat) (d : Decimal) : (stripZeros fuel d).amount = d.amount := by
  fun_induction stripZeros fuel d with
  | case1 d => rfl
  | case2 fuel d zeros ih =>
      have tens : d.coefficient = d.coefficient / 10 * 10 := by omega
      calc (stripZeros fuel _).amount
        _ = (d.coefficient / 10 : Nat) * 10 ^ (d.exponent + 1) := ih
        _ = (d.coefficient / 10 * 10 : Nat) * 10 ^ d.exponent := by
            rw [zpow_add_one₀ (by decide)]
            push_cast
            ring
        _ = d.amount := by rw [← tens, amount]
  | case3 fuel d _ => rfl

theorem reduced_stripZeros {fuel : Nat} (small : d.coefficient < 10 ^ fuel)
    (some : d.coefficient ≠ 0) : (stripZeros fuel d).Reduced := by
  induction fuel generalizing d with
  | zero => exact absurd (Nat.lt_one_iff.mp small) some
  | succ fuel ih =>
      rw [stripZeros]
      split
      · rename_i zeros
        refine ih (Nat.div_lt_of_lt_mul ?_) (by dsimp only; omega)
        rwa [← pow_succ']
      · rename_i stripped
        exact fun zero => stripped ⟨some, zero⟩

theorem magnitude_shortest (finite : bits < infinityBits) : (shortest bits).magnitude = bits := by
  rw [shortest]
  dsimp only
  rw [magnitude_congr (amount_stripZeros _ _), magnitude_shortestFrom finite]

theorem coefficient_shortest (finite : bits < infinityBits) :
    (shortest bits).coefficient = 0 ↔ bits = 0 := by
  constructor
  · intro none
    rw [← magnitude_shortest finite, magnitude, if_pos none]
  · rintro rfl
    decide +kernel

theorem reduced_shortest (finite : bits < infinityBits) (some : bits ≠ 0) :
    (shortest bits).Reduced := by
  have given := mt (coefficient_shortest finite).mp some
  rw [shortest] at given ⊢
  apply reduced_stripZeros (lt_pow_digitCount _)
  rwa [← amount_eq_zero, amount_stripZeros, amount_eq_zero] at given

end Shortest

end Formulary.Decimal
