import Mathlib.Data.List.Basic
import Formulary.Text.Case

set_option autoImplicit false

namespace Formulary.Text

namespace CaseRun

def image (r : CaseRun) : CaseRun :=
  ⟨(r.first + r.shift).toNat, (r.last + r.shift).toNat, r.step, 0⟩

def point (n : Nat) : CaseRun := ⟨n, n, 1, 0⟩

def keepsParity (r : CaseRun) : Bool := r.step == 2 || r.first == r.last

/-- Two runs without a point in common: one ends before the other begins, or one has odd points and
the other even ones. -/
def apart (r s : CaseRun) : Bool :=
  Nat.blt r.last s.first || Nat.blt s.last r.first ||
    (r.keepsParity && s.keepsParity && r.first % 2 != s.first % 2)

theorem covers_iff {r : CaseRun} {n : Nat} :
    r.covers n = true ↔ r.first ≤ n ∧ n ≤ r.last ∧ (n - r.first) % r.step = 0 := by
  simp [covers, and_assoc]

theorem parity_of_covers {r : CaseRun} {n : Nat} (keeps : r.keepsParity = true)
    (covered : r.covers n = true) : n % 2 = r.first % 2 := by
  obtain ⟨above, below, stepped⟩ := covers_iff.mp covered
  simp only [keepsParity, Bool.or_eq_true, beq_iff_eq] at keeps
  obtain two | single := keeps
  · rw [two] at stepped
    omega
  · omega

theorem not_covers_of_apart {r s : CaseRun} (separate : r.apart s = true) {n : Nat}
    (covered : r.covers n = true) : s.covers n = false := by
  rw [← Bool.not_eq_true]
  intro covered'
  have first := covers_iff.mp covered
  have second := covers_iff.mp covered'
  simp only [apart, Bool.or_eq_true, Bool.and_eq_true, Nat.blt_eq, bne_iff_ne] at separate
  obtain (before | behind) | ⟨⟨keeps, keeps'⟩, differ⟩ := separate
  · omega
  · omega
  · rw [← parity_of_covers keeps covered, ← parity_of_covers keeps' covered'] at differ
    exact differ rfl

theorem image_covers {r : CaseRun} {n : Nat} (legal : 0 ≤ (r.first : Int) + r.shift)
    (covered : r.covers n = true) : r.image.covers (n + r.shift).toNat = true := by
  obtain ⟨above, below, stepped⟩ := covers_iff.mp covered
  rw [covers_iff]
  have along : (n + r.shift).toNat - (r.first + r.shift).toNat = n - r.first := by omega
  simp only [image]
  rw [along]
  exact ⟨by omega, by omega, stepped⟩

@[simp] theorem point_covers (n : Nat) : (point n).covers n = true := by
  simp [point, covers]

end CaseRun

def isUpper (r : CaseRun) : Bool :=
  upperRuns.all r.apart && upperExpansions.all fun p => r.apart (.point p.1)

theorem isUpper_image : ∀ r ∈ upperRuns, isUpper r.image = true := by decide +kernel

theorem isUpper_expanded : ∀ p ∈ upperExpansions, ∀ n ∈ p.2, isUpper (.point n) = true := by
  decide +kernel

theorem image_legal : ∀ r ∈ upperRuns, 0 ≤ (r.first : Int) + r.shift := by decide +kernel

theorem find?_upperRuns {r : CaseRun} (upper : isUpper r = true) {n : Nat}
    (covered : r.covers n = true) : upperRuns.find? (·.covers n) = none := by
  simp only [isUpper, Bool.and_eq_true, List.all_eq_true] at upper
  rw [List.find?_eq_none]
  intro other mem
  simp [CaseRun.not_covers_of_apart (upper.1 other mem) covered]

theorem lookup_upperExpansions {r : CaseRun} (upper : isUpper r = true) {n : Nat}
    (covered : r.covers n = true) : upperExpansions.lookup n = none := by
  simp only [isUpper, Bool.and_eq_true, List.all_eq_true] at upper
  rw [List.lookup_eq_none_iff]
  intro p mem
  have other := CaseRun.not_covers_of_apart (upper.2 p mem) covered
  rw [bne_iff_ne]
  rintro rfl
  rw [CaseRun.point_covers] at other
  cases other

theorem upperChar_cases (c : Char) :
    (c.toNat < 0x80 ∧ upperChar c = [c.toUpper]) ∨
      0x80 ≤ c.toNat ∧
        ((∃ p ∈ upperExpansions, upperChar c = p.2.map Char.ofNat) ∨
          (∃ r ∈ upperRuns, r.covers c.toNat = true ∧
            upperChar c = [Char.ofNat (c.toNat + r.shift).toNat]) ∨
          upperChar c = [c]) := by
  by_cases ascii : c.toNat < 0x80
  · exact .inl ⟨ascii, if_pos ascii⟩
  refine .inr ⟨Nat.le_of_not_lt ascii, ?_⟩
  rw [upperChar, if_neg ascii, mapCase]
  cases expanded : upperExpansions.lookup c.toNat with
  | some points =>
      obtain ⟨before, after, same, -⟩ := List.lookup_eq_some_iff.mp expanded
      exact .inl ⟨(c.toNat, points), by simp [same], rfl⟩
  | none =>
      cases found : upperRuns.find? (·.covers c.toNat) with
      | some r =>
          have covered := List.find?_some found
          exact .inr (.inl ⟨r, List.mem_of_find?_eq_some found, covered, rfl⟩)
      | none => exact .inr (.inr rfl)

theorem toUpper_of_find? {c : Char} (stays : upperRuns.find? (·.covers c.toNat) = none) :
    c.toUpper = c := by
  have letter := List.find?_eq_none.mp stays ⟨0x61, 0x7A, 1, -32⟩ (List.mem_cons_self ..)
  have unmoved : ¬(c.val ≥ 'a'.val ∧ c.val ≤ 'z'.val) := by
    rintro ⟨above, below⟩
    have above : 0x61 ≤ c.toNat := above
    have below : c.toNat ≤ 0x7A := below
    exact letter (CaseRun.covers_iff.mpr ⟨above, below, Nat.mod_one _⟩)
  exact dif_neg unmoved

theorem ofNat_cases (n : Nat) : (Char.ofNat n).toNat = n ∨ Char.ofNat n = '\x00' := by
  by_cases valid : n.isValidChar
  · left
    rw [Char.ofNat, dif_pos valid]
    exact UInt32.toNat_ofNatLT ..
  · right
    rw [Char.ofNat, dif_neg valid]
    rfl

theorem upperChar_of_isUpper {r : CaseRun} (upper : isUpper r = true) {n : Nat}
    (covered : r.covers n = true) : upperChar (Char.ofNat n) = [Char.ofNat n] := by
  obtain point | none := ofNat_cases n
  · have stays := find?_upperRuns upper covered
    by_cases ascii : n < 0x80
    · rw [upperChar, point, if_pos ascii, toUpper_of_find? (by rwa [point])]
    · rw [upperChar, point, if_neg ascii, mapCase, point, lookup_upperExpansions upper covered,
        stays]
  · rw [none]
    rfl

-- Looks at the characters of the list alone, not at all that there are.
theorem forall_mem_of_all {p : Char → Prop} [DecidablePred p] {cs : List Char}
    (checked : (cs.all fun c => decide (p c)) = true) : ∀ c ∈ cs, p c :=
  fun c mem => of_decide_eq_true (List.all_eq_true.mp checked c mem)

theorem upperChar_toUpper {c : Char} (ascii : c.toNat < 0x80) :
    upperChar c.toUpper = [c.toUpper] := by
  have each : ∀ n : Fin 0x80, upperChar (Char.ofNat n).toUpper = [(Char.ofNat n).toUpper] := by
    decide +kernel
  have here := each ⟨c.toNat, ascii⟩
  rwa [Char.ofNat_toNat] at here

theorem upperChar_upperChar (c : Char) : (upperChar c).flatMap upperChar = upperChar c := by
  obtain ⟨ascii, same⟩ | ⟨-, ⟨p, mem, same⟩ | ⟨r, mem, covered, same⟩ | same⟩ := upperChar_cases c
  · rw [same, List.flatMap_singleton, upperChar_toUpper ascii]
  · rw [same, List.flatMap_map, List.map_eq_flatMap]
    apply List.flatMap_congr
    intro n point
    exact upperChar_of_isUpper (isUpper_expanded p mem n point) (CaseRun.point_covers n)
  · rw [same, List.flatMap_singleton]
    exact upperChar_of_isUpper (isUpper_image r mem)
      (CaseRun.image_covers (image_legal r mem) covered)
  · rw [same, List.flatMap_singleton, same]

@[simp] theorem upper_upper (s : String) : upper (upper s) = upper s := by
  simp only [upper, String.toList_ofList, List.flatMap_assoc, upperChar_upperChar]

theorem lowerAfter_eq {cs : List Char} (noSigma : 'Σ' ∉ cs) (before : List Char) :
    lowerAfter before cs = cs.flatMap lowerChar := by
  induction cs generalizing before with
  | nil => rfl
  | cons c cs ih =>
      simp only [List.mem_cons, not_or] at noSigma
      rw [lowerAfter, if_neg (Ne.symm noSigma.1), ih noSigma.2, List.flatMap_cons]

theorem upper_lower {s : String} (noSigma : 'Σ' ∉ s.toList)
    (each : ∀ c ∈ s.toList, (lowerChar c).flatMap upperChar = upperChar c) :
    upper (lower s) = upper s := by
  rw [upper, lower, String.toList_ofList, lowerAfter_eq noSigma, List.flatMap_assoc,
    List.flatMap_congr each, upper]

end Formulary.Text
