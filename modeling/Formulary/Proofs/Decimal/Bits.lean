import Formulary.Decimal.Nearest
import Mathlib

set_option autoImplicit false

namespace Formulary.Decimal

open Float.Model UnpackedFloat

theorem ofSignedBits_self (x : Float) : ofSignedBits (isNegative x) (magnitudeBits x) = x := by
  have size := x.toBits.toNat_lt
  have same : (if isNegative x then signBit + magnitudeBits x else magnitudeBits x) =
      x.toBits.toNat := by
    rw [isNegative, magnitudeBits, signBit]
    simp only [decide_eq_true_eq]
    split <;> omega
  rw [ofSignedBits, same, UInt64.ofNat_toNat, Float.ofBits_toBits]

section Fields

variable (b : BitVec 64)

theorem toNat_exponent :
    (@unpackExponent Format.binary64 b).toNat = b.toNat % signBit / fullBits := by
  rw [unpackExponent_def, BitVec.extractLsb'_toNat, Nat.shiftRight_eq_div_pow]
  change b.toNat / 2 ^ 52 % 2 ^ 11 = _
  simp only [signBit, fullBits]
  omega

theorem toNat_mantissa :
    (@unpackMantissa Format.binary64 b).toNat = b.toNat % signBit % fullBits := by
  rw [unpackMantissa_def, BitVec.extractLsb'_toNat, Nat.shiftRight_eq_div_pow]
  change b.toNat / 2 ^ 0 % 2 ^ 52 = _
  simp only [signBit, fullBits]
  omega

theorem toNat_sign : (@unpackSign Format.binary64 b).toNat = b.toNat / signBit := by
  have size := b.isLt
  rw [unpackSign_def, BitVec.extractLsb'_toNat, Nat.shiftRight_eq_div_pow]
  change b.toNat / 2 ^ 63 % 2 ^ 1 = b.toNat / 2 ^ 63
  omega

theorem exponent_full :
    @unpackExponent Format.binary64 b = -1#11 ↔ infinityBits ≤ b.toNat % signBit := by
  have size := b.isLt
  rw [← BitVec.toNat_inj, toNat_exponent]
  change _ = 2047 ↔ _
  simp only [signBit, fullBits, infinityBits]
  omega

theorem mantissa_zero :
    @unpackMantissa Format.binary64 b = 0#52 ↔ b.toNat % signBit % fullBits = 0 := by
  rw [← BitVec.toNat_inj, toNat_mantissa]
  rfl

theorem isFinite_unpack :
    (UnpackedFloat.unpack Format.binary64 b).isFinite =
      decide (b.toNat % signBit < infinityBits) := by
  unfold UnpackedFloat.unpack
  dsimp only
  by_cases full : @unpackExponent Format.binary64 b = -1#11
  · have bound := (exponent_full b).mp full
    rw [if_pos full]
    split <;> simp [UnpackedFloat.isFinite, Nat.not_lt.mpr bound]
  · have bound := Nat.not_le.mp (mt (exponent_full b).mpr full)
    rw [if_neg full]
    split
    · split <;> simp [UnpackedFloat.isFinite, bound]
    · simp [UnpackedFloat.isFinite, bound]

theorem isInf_unpack :
    (UnpackedFloat.unpack Format.binary64 b).isInf = decide (b.toNat % signBit = infinityBits) := by
  unfold UnpackedFloat.unpack
  dsimp only
  by_cases full : @unpackExponent Format.binary64 b = -1#11
  · have bound := (exponent_full b).mp full
    rw [if_pos full]
    by_cases zero : @unpackMantissa Format.binary64 b = 0#52
    · have same : b.toNat % signBit = infinityBits := by
        have none := (mantissa_zero b).mp zero
        simp only [signBit, fullBits, infinityBits] at *
        omega
      rw [if_pos zero]
      simp [UnpackedFloat.isInf, same]
    · have differs : b.toNat % signBit ≠ infinityBits := by
        intro same
        apply zero
        rw [mantissa_zero, same]
        rfl
      rw [if_neg zero]
      simp [UnpackedFloat.isInf, differs]
  · have bound := Nat.not_le.mp (mt (exponent_full b).mpr full)
    have differs := Nat.ne_of_lt bound
    rw [if_neg full]
    split
    · split <;> simp [UnpackedFloat.isInf, differs]
    · simp [UnpackedFloat.isInf, differs]

theorem toNat_ofNat_of_le {n : Nat} (small : n ≤ infinityBits) :
    (BitVec.ofNat 64 n).toNat = n := by
  rw [BitVec.toNat_ofNat]
  simp only [infinityBits] at small
  omega

theorem toNat_turned {n : Nat} (small : n ≤ infinityBits) :
    (BitVec.ofNat 64 (signBit + n)).toNat = signBit + n := by
  rw [BitVec.toNat_ofNat]
  simp only [infinityBits, signBit] at *
  omega

theorem unpack_turned {n : Nat} (small : n ≤ infinityBits) :
    UnpackedFloat.unpack Format.binary64 (BitVec.ofNat 64 (signBit + n)) =
      (UnpackedFloat.unpack Format.binary64 (BitVec.ofNat 64 n)).neg := by
  have low := toNat_ofNat_of_le small
  have high := toNat_turned small
  have exponent : @unpackExponent Format.binary64 (BitVec.ofNat 64 (signBit + n)) =
      @unpackExponent Format.binary64 (BitVec.ofNat 64 n) := by
    rw [← BitVec.toNat_inj, toNat_exponent, toNat_exponent, low, high, Nat.add_mod_left]
  have mantissa : @unpackMantissa Format.binary64 (BitVec.ofNat 64 (signBit + n)) =
      @unpackMantissa Format.binary64 (BitVec.ofNat 64 n) := by
    rw [← BitVec.toNat_inj, toNat_mantissa, toNat_mantissa, low, high, Nat.add_mod_left]
  have positive : @unpackSign Format.binary64 (BitVec.ofNat 64 n) = 0#1 := by
    rw [← BitVec.toNat_inj, toNat_sign, low]
    simp only [infinityBits] at small
    exact Nat.div_eq_of_lt (by simp only [signBit]; omega)
  have negative : @unpackSign Format.binary64 (BitVec.ofNat 64 (signBit + n)) = 1#1 := by
    rw [← BitVec.toNat_inj, toNat_sign, high]
    change _ = 1
    simp only [infinityBits, signBit] at *
    omega
  unfold UnpackedFloat.unpack
  simp only [exponent, mantissa, positive, negative]
  split
  · split <;> rfl
  · split
    · split <;> rfl
    · rfl

end Fields

theorem isFinite_iff {x : Float} : x.isFinite = true ↔ magnitudeBits x < infinityBits := by
  have fields := isFinite_unpack x.toBits.toBitVec
  exact (Bool.coe_iff_coe.mpr fields).trans decide_eq_true_iff

theorem isInf_iff {x : Float} : x.isInf = true ↔ magnitudeBits x = infinityBits := by
  have fields := isInf_unpack x.toBits.toBitVec
  exact (Bool.coe_iff_coe.mpr fields).trans decide_eq_true_iff

theorem isFinite_eq (x : Float) : x.isFinite = (!x.isNaN && !x.isInf) := by
  change x.toModel.unpack.isFinite = (!x.toModel.unpack.isNaN && !x.toModel.unpack.isInf)
  cases x.toModel.unpack <;> rfl

theorem magnitudeBits_eq_zero {x : Float} : magnitudeBits x = 0 ↔ x = 0.0 ∨ x = -0.0 := by
  constructor
  · intro none
    have same := ofSignedBits_self x
    rw [none] at same
    cases sign : isNegative x with
    | true => exact .inr (by rw [← same, sign]; rfl)
    | false => exact .inl (by rw [← same, sign]; rfl)
  · rintro (rfl | rfl) <;> rfl

theorem valid_of_le {b : BitVec 64} (small : b.toNat % signBit ≤ infinityBits) :
    Format.binary64.Valid b := by
  constructor
  intro full fraction
  have least := (exponent_full b).mp full
  have given := mt (mantissa_zero b).mpr fraction
  simp only [infinityBits, signBit, fullBits] at *
  omega

theorem toNat_signed (negative : Bool) {n : Nat} (small : n ≤ infinityBits) :
    (BitVec.ofNat 64 (if negative then signBit + n else n)).toNat =
      if negative then signBit + n else n := by
  cases negative with
  | true => exact toNat_turned small
  | false => exact toNat_ofNat_of_le small

theorem pack_unpack_signed (negative : Bool) {n : Nat} (small : n ≤ infinityBits) :
    UnpackedFloat.pack Format.binary64 (UnpackedFloat.unpack Format.binary64
      (BitVec.ofNat 64 (if negative then signBit + n else n))) =
      BitVec.ofNat 64 (if negative then signBit + n else n) := by
  apply pack_unpack_of_valid (valid_of_le _)
  rw [toNat_signed negative small]
  simp only [infinityBits, signBit] at *
  split <;> omega

theorem magnitudeBits_ofSignedBits (negative : Bool) {n : Nat} (small : n ≤ infinityBits) :
    magnitudeBits (ofSignedBits negative n) = n := by
  change (UnpackedFloat.pack Format.binary64 (UnpackedFloat.unpack Format.binary64
    (BitVec.ofNat 64 (if negative then signBit + n else n)))).toNat % signBit = n
  rw [pack_unpack_signed negative small, toNat_signed negative small]
  simp only [infinityBits, signBit] at *
  split <;> omega

theorem neg_ofSignedBits {n : Nat} (small : n ≤ infinityBits) :
    -ofSignedBits false n = ofSignedBits true n := by
  have same : UnpackedFloat.pack Format.binary64 (UnpackedFloat.unpack Format.binary64
      (BitVec.ofNat 64 n)) = BitVec.ofNat 64 n := pack_unpack_signed false small
  change Float.ofModel (Float.Model.pack (UnpackedFloat.unpack Format.binary64
    (UnpackedFloat.pack Format.binary64 (UnpackedFloat.unpack Format.binary64
      (BitVec.ofNat 64 n)))).neg) =
    Float.ofModel (Float.Model.pack (UnpackedFloat.unpack Format.binary64
      (BitVec.ofNat 64 (signBit + n))))
  rw [same, unpack_turned small]

end Formulary.Decimal
