import Formulary.Decimal.Nearest
import Mathlib.Data.Int.Log
import Mathlib.Data.Rat.Floor
import Mathlib.Tactic.FieldSimp
import Mathlib.Tactic.Positivity
import Mathlib.Tactic.Ring

set_option autoImplicit false

namespace Formulary.Decimal

theorem zpow_eq_div {b : Nat} (positive : 0 < b) (k : Int) :
    (b : ℚ) ^ k = (b ^ k.toNat : Nat) / (b ^ (-k).toNat : Nat) := by
  have some : (b : ℚ) ≠ 0 := Nat.cast_ne_zero.mpr positive.ne'
  obtain ⟨n, rfl | rfl⟩ := k.eq_nat_or_neg
  · simp
  · simp [zpow_neg]

theorem roundDiv_scaled {c : Nat} (positive : 0 < c) (num den : Nat) :
    roundDiv (c * num) (c * den) = roundDiv num den := by
  have twice (n : Nat) : 2 * (c * n) = c * (2 * n) := by ring
  simp only [roundDiv, Nat.mul_div_mul_left _ _ positive, Nat.mul_mod_mul_left, twice,
    Nat.mul_lt_mul_left positive]

theorem roundDiv_exact {den : Nat} (positive : 0 < den) (n : Nat) :
    roundDiv (n * den) den = n := by
  simp [roundDiv, Nat.mul_div_cancel _ positive, positive]

theorem roundDiv_congr {num den num' den' : Nat} (positive : 0 < den) (positive' : 0 < den')
    (same : num * den' = num' * den) : roundDiv num den = roundDiv num' den' := by
  rw [← roundDiv_scaled positive' num den, ← roundDiv_scaled positive num' den', Nat.mul_comm den',
    same, Nat.mul_comm num', Nat.mul_comm den']

section Log

variable {num den : Nat} (numerator : 0 < num) (denominator : 0 < den)

include denominator in
theorem zpow_le_ratio (k : Int) :
    (2 : ℚ) ^ k ≤ num / den ↔ den * 2 ^ k.toNat ≤ num * 2 ^ (-k).toNat := by
  have power := zpow_eq_div (b := 2) (by decide) k
  have positive : (0 : ℚ) < den := Nat.cast_pos.mpr denominator
  have below : (0 : ℚ) < ((2 ^ (-k).toNat : Nat) : ℚ) := by positivity
  rw [Nat.cast_ofNat] at power
  rw [power, div_le_div_iff₀ below positive, ← Nat.cast_mul, ← Nat.cast_mul, Nat.cast_le,
    Nat.mul_comm]

include denominator in
theorem ratio_lt_zpow :
    (num : ℚ) / den < 2 ^ ((num.log2 : Int) - den.log2 + 1) := by
  have above : (num : ℚ) < 2 ^ (num.log2 + 1) := by exact_mod_cast Nat.lt_log2_self
  have below : (2 : ℚ) ^ den.log2 ≤ den := by
    exact_mod_cast Nat.log2_self_le denominator.ne'
  have split : ((num.log2 : Int) - den.log2 + 1) = (num.log2 + 1 : Nat) - (den.log2 : Nat) := by
    push_cast
    ring
  rw [split, zpow_sub₀ two_ne_zero, zpow_natCast, zpow_natCast]
  exact div_lt_div₀ above below (by positivity) (by positivity)

include numerator denominator

theorem zpow_lt_ratio :
    (2 : ℚ) ^ ((num.log2 : Int) - den.log2 - 1) < num / den := by
  have below : (2 : ℚ) ^ num.log2 ≤ num := by exact_mod_cast Nat.log2_self_le numerator.ne'
  have above : (den : ℚ) < 2 ^ (den.log2 + 1) := by exact_mod_cast Nat.lt_log2_self
  have split : ((num.log2 : Int) - den.log2 - 1) = (num.log2 : Nat) - (den.log2 + 1 : Nat) := by
    push_cast
    ring
  rw [split, zpow_sub₀ two_ne_zero, zpow_natCast, zpow_natCast]
  exact div_lt_div₀' below above (by positivity) (by positivity)

theorem floorLog2_eq : floorLog2 num den = Int.log 2 ((num : ℚ) / den) := by
  have positive : (0 : ℚ) < num / den := by positivity
  have le (k : Int) : (2 : ℚ) ^ k ≤ num / den ↔ k ≤ Int.log 2 ((num : ℚ) / den) := by
    rw [← Int.zpow_le_iff_le_log (by decide) positive, Nat.cast_ofNat]
  have least := (le _).mp (zpow_lt_ratio numerator denominator).le
  have most : Int.log 2 ((num : ℚ) / den) < (num.log2 : Int) - den.log2 + 1 := by
    rw [← Int.lt_zpow_iff_log_lt (by decide) positive]
    exact_mod_cast ratio_lt_zpow denominator
  simp only [floorLog2, Nat.pow_eq]
  split
  · rename_i fits
    have reached := (le _).mp ((zpow_le_ratio denominator _).mpr fits)
    omega
  · rename_i exceeds
    have missed := mt (le _).mpr (mt (zpow_le_ratio denominator _).mp exceeds)
    omega

end Log

section Nearest

variable {num den num' den' bits : Nat}

theorem nearestBits_congr (denominator : 0 < den) (denominator' : 0 < den')
    (same : (num : ℚ) / den = num' / den') : nearestBits num den = nearestBits num' den' := by
  have cross : num * den' = num' * den := by
    rw [div_eq_div_iff (by positivity) (by positivity)] at same
    exact_mod_cast same
  have none_iff : num = 0 ↔ num' = 0 := by
    have zero : num * den' = 0 ↔ num' * den = 0 := by rw [cross]
    simpa [denominator.ne', denominator'.ne'] using zero
  by_cases none : num = 0
  · rw [nearestBits, nearestBits, if_pos none, if_pos (none_iff.mp none)]
  · have none' := mt none_iff.mpr none
    have unit : unitExponent num den = unitExponent num' den' := by
      rw [unitExponent, unitExponent, floorLog2_eq (Nat.pos_of_ne_zero none) denominator,
        floorLog2_eq (Nat.pos_of_ne_zero none') denominator', same]
    have rounded (a : Nat) {b : Nat} (positive : 0 < b) :
        roundDiv (num * a) (den * b) = roundDiv (num' * a) (den' * b) := by
      apply roundDiv_congr (by positivity) (by positivity)
      calc num * a * (den' * b)
        _ = num * den' * (a * b) := by ring
        _ = num' * den * (a * b) := by rw [cross]
        _ = num' * a * (den * b) := by ring
    rw [nearestBits, nearestBits, if_neg none, if_neg none', unit]
    dsimp only
    rw [rounded _ (b := Nat.pow 2 _) (Nat.pow_pos (by decide))]

section Exact

variable {m : Nat} {q : Int} (some : 0 < m) (denominator : 0 < den)
  (exact : (num : ℚ) / den = m * 2 ^ q)

include some in
theorem scaled_pos : (0 : ℚ) < m * 2 ^ q :=
  mul_pos (Nat.cast_pos.mpr some) (zpow_pos two_pos q)

include some in
theorem log_scaled_lt (small : m < 2 * fullBits) : Int.log 2 ((m : ℚ) * 2 ^ q) < q + 53 := by
  rw [← Int.lt_zpow_iff_log_lt (by decide) (scaled_pos some), Nat.cast_ofNat,
    zpow_add₀ two_ne_zero, mul_comm]
  apply mul_lt_mul_of_pos_left _ (zpow_pos two_pos q)
  exact_mod_cast small

theorem le_log_scaled (full : fullBits ≤ m) : q + 52 ≤ Int.log 2 ((m : ℚ) * 2 ^ q) := by
  have some : 0 < m := Nat.lt_of_lt_of_le (by decide) full
  rw [← Int.zpow_le_iff_le_log (by decide) (scaled_pos some), Nat.cast_ofNat,
    zpow_add₀ two_ne_zero, mul_comm]
  apply mul_le_mul_of_nonneg_right _ (zpow_pos two_pos q).le
  exact_mod_cast full

include some denominator exact

theorem unitExponent_eq (small : m < 2 * fullBits) (least : -1074 ≤ q)
    (full : q = -1074 ∨ fullBits ≤ m) : unitExponent num den = q := by
  have numerator : 0 < num := by
    have positive := scaled_pos (q := q) some
    rw [← exact] at positive
    by_contra none
    rw [Nat.eq_zero_of_not_pos none] at positive
    simp at positive
  have most := log_scaled_lt (q := q) some small
  rw [unitExponent, floorLog2_eq numerator denominator, exact]
  obtain rfl | full := full
  · omega
  · have reached := le_log_scaled (q := q) full
    omega

omit some in
theorem rounded_exact :
    roundDiv (num * Nat.pow 2 (-q).toNat) (den * Nat.pow 2 q.toNat) = m := by
  have power := zpow_eq_div (b := 2) (by decide) q
  have same : num * 2 ^ (-q).toNat = m * (den * 2 ^ q.toNat) := by
    rw [Nat.cast_ofNat] at power
    rw [power, ← mul_div_assoc, div_eq_div_iff (by positivity) (by positivity)] at exact
    norm_cast at exact
    rw [exact]
    ring
  rw [Nat.pow_eq, Nat.pow_eq, same]
  exact roundDiv_exact (by positivity) m

end Exact

/-- What the fields of a finite double say of its significand. -/
structure Fielded (bits m : Nat) (q : Int) : Prop where
  small : m < 2 * fullBits
  least : -1074 ≤ q
  most : q ≤ 971
  full : q = -1074 ∨ fullBits ≤ m
  bits : (q + 1074).toNat * fullBits + m = bits

theorem significand_fielded (finite : bits < infinityBits) :
    Fielded bits (significand bits).1 (significand bits).2 := by
  simp only [significand]
  simp only [infinityBits] at finite
  split
  · rename_i subnormal
    simp only [fullBits] at subnormal
    refine ⟨?_, Int.le_refl _, Int.neg_ofNat_le_ofNat _ _, .inl rfl, ?_⟩ <;>
      simp only [fullBits] <;> omega
  · rename_i normal
    simp only [fullBits] at normal
    constructor <;> simp only [fullBits] <;> omega

def amountOfBits (bits : Nat) : ℚ := (significand bits).1 * 2 ^ (significand bits).2

theorem amountOfBits_eq_zero (finite : bits < infinityBits) :
    amountOfBits bits = 0 ↔ bits = 0 := by
  have fields := significand_fielded finite
  have power : (2 : ℚ) ^ (significand bits).2 ≠ 0 := (zpow_pos two_pos _).ne'
  rw [amountOfBits, mul_eq_zero_iff_right power, Nat.cast_eq_zero]
  constructor
  · intro none
    obtain ⟨-, -, -, least | full, bits⟩ := fields
    · rw [← bits, none, least]
      rfl
    · rw [none] at full
      exact absurd full (by decide)
  · rintro rfl
    rfl

theorem amountOfBits_lt (finite : bits < infinityBits) : amountOfBits bits < 2 ^ (1024 : Int) := by
  have fields := significand_fielded finite
  have power : (2 : ℚ) ^ (significand bits).2 ≤ 2 ^ (971 : Int) :=
    zpow_le_zpow_right₀ one_le_two fields.most
  have less : ((significand bits).1 : ℚ) < 2 ^ (53 : Int) := by exact_mod_cast fields.small
  calc amountOfBits bits
    _ ≤ (significand bits).1 * 2 ^ (971 : Int) := by
        exact mul_le_mul_of_nonneg_left power (Nat.cast_nonneg _)
    _ < 2 ^ (53 : Int) * 2 ^ (971 : Int) :=
        mul_lt_mul_of_pos_right less (zpow_pos two_pos _)
    _ = 2 ^ (1024 : Int) := by rw [← zpow_add₀ two_ne_zero]; rfl

theorem le_amountOfBits (finite : bits < infinityBits) (some : bits ≠ 0) :
    2 ^ (-1074 : Int) ≤ amountOfBits bits := by
  have fields := significand_fielded finite
  have given : (1 : ℚ) ≤ (significand bits).1 := by
    have differs := mt (amountOfBits_eq_zero finite).mp some
    rw [Nat.one_le_cast, Nat.one_le_iff_ne_zero]
    intro none
    exact differs (by rw [amountOfBits, none, Nat.cast_zero, zero_mul])
  calc (2 : ℚ) ^ (-1074 : Int)
    _ ≤ 2 ^ (significand bits).2 := zpow_le_zpow_right₀ one_le_two fields.least
    _ ≤ amountOfBits bits := le_mul_of_one_le_left (zpow_pos two_pos _).le given

theorem nearestBits_exact (finite : bits < infinityBits) (denominator : 0 < den)
    (exact : (num : ℚ) / den = amountOfBits bits) : nearestBits num den = bits := by
  have fields := significand_fielded finite
  by_cases zero : bits = 0
  · have none : num = 0 := by
      rw [(amountOfBits_eq_zero finite).mpr zero] at exact
      simpa [denominator.ne'] using exact
    rw [nearestBits, if_pos none, zero]
  · have some : num ≠ 0 := by
      rintro rfl
      rw [Nat.cast_zero, zero_div] at exact
      exact zero ((amountOfBits_eq_zero finite).mp exact.symm)
    have given : 0 < (significand bits).1 := by
      apply Nat.pos_of_ne_zero
      intro none
      apply zero
      rw [← amountOfBits_eq_zero finite, amountOfBits, none, Nat.cast_zero, zero_mul]
    rw [amountOfBits] at exact
    have unit := unitExponent_eq given denominator exact fields.small fields.least fields.full
    rw [nearestBits, if_neg some, unit]
    dsimp only
    rw [rounded_exact denominator exact, fields.bits]
    exact Nat.min_eq_right finite.le

end Nearest

end Formulary.Decimal
