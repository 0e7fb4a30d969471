import Formulary.Data.Entries
import Formulary.Proofs.Decimal.Bits
import Formulary.Proofs.Decimal.Rounding

set_option autoImplicit false

namespace Formulary

namespace Decimal

open Float.Model UnpackedFloat

section Equality

variable {x y : Float}

theorem eq_of_unpack (same : x.toModel.unpack = y.toModel.unpack) : x = y := by
  have packed : x.toModel.toBits.toBitVec = y.toModel.toBits.toBitVec := by
    rw [← pack_unpack_of_valid x.toModel.valid, ← pack_unpack_of_valid y.toModel.valid]
    exact congrArg _ same
  exact Float.toBits_inj.mp (UInt64.toBitVec_inj.mp packed)

theorem compare_eq_some_eq {a b : UnpackedFloat} :
    a.compare b = some .eq ↔
      a ≠ .notANumber ∧ (a = b ∨ ∃ s t, a = .zero s ∧ b = .zero t) := by
  cases a with
  | notANumber => simp [UnpackedFloat.compare]
  | infinity s =>
      cases b with
      | infinity t => cases s <;> cases t <;> simp [UnpackedFloat.compare] <;> decide
      | _ => cases s <;> simp [UnpackedFloat.compare]
  | zero s =>
      cases b with
      | infinity t => cases t <;> simp [UnpackedFloat.compare]
      | finite t m e pos => cases t <;> simp [UnpackedFloat.compare]
      | _ => simp [UnpackedFloat.compare]
  | finite s m e pos =>
      cases b with
      | infinity t => cases t <;> simp [UnpackedFloat.compare]
      | zero t => cases s <;> simp [UnpackedFloat.compare]
      | notANumber => simp [UnpackedFloat.compare]
      | finite t m' e' pos' =>
          cases s <;> cases t <;> simp [UnpackedFloat.compare, Ordering.then_eq_eq, and_comm]

theorem unpack_eq_zero : (∃ s, x.toModel.unpack = .zero s) ↔ magnitudeBits x = 0 := by
  rw [magnitudeBits_eq_zero]
  constructor
  · rintro ⟨s, zero⟩
    cases s with
    | positive => exact .inl (eq_of_unpack (y := 0.0) zero)
    | negative => exact .inr (eq_of_unpack (y := -0.0) zero)
  · rintro (rfl | rfl)
    · exact ⟨.positive, rfl⟩
    · exact ⟨.negative, rfl⟩

theorem isNaN_iff : x.isNaN = true ↔ x.toModel.unpack = .notANumber := by
  change x.toModel.unpack.isNaN = true ↔ _
  cases x.toModel.unpack <;> simp [UnpackedFloat.isNaN]

theorem alike_iff :
    (x == y || (x.isNaN && y.isNaN)) = true ↔
      x = y ∨ magnitudeBits x = 0 ∧ magnitudeBits y = 0 := by
  have equal : (x == y) = true ↔ x.toModel.unpack.compare y.toModel.unpack = some .eq := by
    change (x.toModel.unpack.compare y.toModel.unpack == some .eq) = true ↔ _
    exact beq_iff_eq
  rw [Bool.or_eq_true, Bool.and_eq_true, equal, compare_eq_some_eq, isNaN_iff, isNaN_iff,
    ← unpack_eq_zero, ← unpack_eq_zero]
  constructor
  · rintro (⟨-, same | ⟨s, t, first, second⟩⟩ | ⟨first, second⟩)
    · exact .inl (eq_of_unpack same)
    · exact .inr ⟨⟨s, first⟩, ⟨t, second⟩⟩
    · exact .inl (eq_of_unpack (first.trans second.symm))
  · rintro (rfl | ⟨⟨s, first⟩, ⟨t, second⟩⟩)
    · by_cases number : x.toModel.unpack = .notANumber
      · exact .inr ⟨number, number⟩
      · exact .inl ⟨number, .inl rfl⟩
    · refine .inl ⟨?_, .inr ⟨s, t, first, second⟩⟩
      rw [first]
      exact nofun

end Equality

section Whole

variable {x y : Float} {n : Int}

theorem ratio_eq_amountOfBits (bits : Nat) :
    ((ratio bits).1 : ℚ) / (ratio bits).2 = amountOfBits bits := by
  have power := zpow_eq_div (b := 2) (by decide) (significand bits).2
  rw [Nat.cast_ofNat] at power
  simp only [ratio, amountOfBits]
  rw [power, Nat.cast_mul, mul_div_assoc, Nat.pow_eq, Nat.pow_eq]

theorem intOfFloat?_eq_some (whole : intOfFloat? x = some n) :
    magnitudeBits x < infinityBits ∧ amountOfBits (magnitudeBits x) = n.natAbs ∧
      (n ≠ 0 → isNegative x = decide (n < 0)) := by
  unfold intOfFloat? at whole
  split at whole
  · cases whole
  · next ordinary =>
      have finite : x.isFinite = true := by simpa [isFinite_eq] using ordinary
      refine ⟨isFinite_iff.mp finite, ?_⟩
      rw [← ratio_eq_amountOfBits]
      generalize ratio (magnitudeBits x) = fraction at whole
      obtain ⟨num, den⟩ := fraction
      dsimp only at whole ⊢
      split at whole
      · cases whole
      · next divides =>
          obtain rfl := Option.some.inj whole
          have exact : ((num / den : Nat) : ℚ) = num / den :=
            Nat.cast_div_charZero (Nat.dvd_of_mod_eq_zero (not_not.mp divides))
          rw [← exact]
          generalize num / den = n
          cases isNegative x
          · simp
          · simp [Nat.pos_iff_ne_zero]

theorem eq_of_intOfFloat? (first : intOfFloat? x = some n) (second : intOfFloat? y = some n) :
    x = y ∨ magnitudeBits x = 0 ∧ magnitudeBits y = 0 := by
  obtain ⟨finite, amount, sign⟩ := intOfFloat?_eq_some first
  obtain ⟨finite', amount', sign'⟩ := intOfFloat?_eq_some second
  by_cases zero : n = 0
  · subst zero
    exact .inr ⟨(amountOfBits_eq_zero finite).mp (by simpa using amount),
      (amountOfBits_eq_zero finite').mp (by simpa using amount')⟩
  · have magnitude : magnitudeBits x = magnitudeBits y := by
      have nearest {bits : Nat} (finite : bits < infinityBits)
          (amount : amountOfBits bits = n.natAbs) : nearestBits n.natAbs 1 = bits :=
        nearestBits_exact finite one_pos (by simpa using amount.symm)
      rw [← nearest finite amount, ← nearest finite' amount']
    rw [← ofSignedBits_self x, ← ofSignedBits_self y, sign zero, sign' zero, magnitude]
    exact .inl rfl

theorem intOfFloat?_zero (zero : magnitudeBits x = 0) : intOfFloat? x = some 0 := by
  have ordinary : (x.isNaN || x.isInf) = false := by
    have finite : x.isFinite = true := by
      rw [isFinite_iff, zero]
      decide
    simpa [isFinite_eq] using finite
  have none : (ratio 0).1 = 0 := Nat.zero_mul _
  unfold intOfFloat?
  simp only [ordinary, zero, none, Nat.zero_mod, Nat.zero_div, Int.natCast_zero, Int.neg_zero,
    ite_self, ne_eq, not_true_eq_false, Bool.false_eq_true, if_false]

end Whole

end Decimal

namespace Scalar

/-- What a key stands for. -/
inductive Identity where
  | nothing
  | number (n : Int ⊕ Float)
  | text (s : String)
  | date (d : Date)
  -- Without a distance from universal time a clock stands for itself.
  | time (t : Moment ⊕ Int)
  | bytes (bs : List UInt8)

def identity : Scalar → Identity
  | .null => .nothing
  | .boolean b => .number (.inl (if b then 1 else 0))
  | .integer n => .number (.inl n)
  | .float x => .number ((Decimal.intOfFloat? x).elim (.inr x) .inl)
  | .text s => .text s
  | .date d => .date d
  | .moment m => .time (m.offset.elim (.inl m) fun seconds => .inr (m.instant seconds))
  | .bytes bs => .bytes bs

theorem identity_float {x y : Float} :
    (Scalar.float x).identity = (Scalar.float y).identity ↔
      x = y ∨ Decimal.magnitudeBits x = 0 ∧ Decimal.magnitudeBits y = 0 := by
  constructor
  · intro same
    cases first : Decimal.intOfFloat? x <;> cases second : Decimal.intOfFloat? y <;>
      simp only [identity, first, second, Option.elim, Identity.number.injEq, Sum.inr.injEq,
        Sum.inl.injEq, reduceCtorEq] at same
    · exact .inl same
    · exact Decimal.eq_of_intOfFloat? first (same ▸ second)
  · rintro (rfl | ⟨zero, zero'⟩)
    · rfl
    · simp [identity, Decimal.intOfFloat?_zero zero, Decimal.intOfFloat?_zero zero']

theorem identity_moment {m n : Moment} :
    (Scalar.moment m).identity = (Scalar.moment n).identity ↔ m.same n = true := by
  unfold Moment.same
  cases first : m.offset <;> cases second : n.offset <;> simp [identity, first, second]

/-- Two keys name the same entry if and only if they stand for the same thing. -/
theorem sameKey_iff {a b : Scalar} : a.sameKey b = true ↔ a.identity = b.identity := by
  cases a
  case float x =>
    cases b
    case float y => exact Decimal.alike_iff.trans identity_float.symm
    all_goals cases whole : Decimal.intOfFloat? x <;> simp [sameKey, integer?, identity, whole]
  case moment m =>
    cases b
    case moment n => exact identity_moment.symm
    all_goals simp [sameKey, integer?, identity]
  all_goals
    cases b
    case float y =>
      cases whole : Decimal.intOfFloat? y <;> simp [sameKey, integer?, identity, whole]
    all_goals simp [sameKey, integer?, identity]

@[simp] theorem sameKey_self (key : Scalar) : key.sameKey key = true := sameKey_iff.mpr rfl

theorem sameKey_comm (a b : Scalar) : a.sameKey b = b.sameKey a := by
  rw [Bool.eq_iff_iff, sameKey_iff, sameKey_iff]
  exact eq_comm

theorem sameKey_congr {a b : Scalar} (same : a.sameKey b = true) (key : Scalar) :
    a.sameKey key = b.sameKey key := by
  rw [Bool.eq_iff_iff, sameKey_iff, sameKey_iff, sameKey_iff.mp same]

end Scalar

end Formulary
