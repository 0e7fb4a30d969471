import Formulary.Proofs.Decimal.RoundTrip

set_option autoImplicit false

namespace Formulary

open Decimal Numeral NumberStyle Text

namespace Numeral

def signed (negative : Bool) (q : ℚ) : ℚ := if negative then -q else q

def Spelling.amount? (n : Spelling) : Option ℚ :=
  match n.body with
  | .infinity => none
  | .decimal m e? => some (signed n.sign.negative (scaled m e?).amount)

def Denotes (text : String) (q : ℚ) : Prop :=
  ∃ n : Spelling, n.text = text.toList ∧ n.amount? = some q

theorem signed_inj {a b : ℚ} {negative negative' : Bool} (positive : 0 < a) (positive' : 0 < b)
    (same : signed negative a = signed negative' b) : negative = negative' ∧ a = b := by
  unfold signed at same
  cases negative <;> cases negative'
  · exact ⟨rfl, same⟩
  · change a = -b at same
    linarith
  · change -a = b at same
    linarith
  · exact ⟨rfl, neg_inj.mp same⟩

theorem Denotes.unique {text : String} {q q' : ℚ} (first : Denotes text q)
    (second : Denotes text q') : q = q' := by
  obtain ⟨⟨s, b⟩, written, given⟩ := first
  obtain ⟨⟨s', b'⟩, written', given'⟩ := second
  have same : s.text ++ (b.text ++ []) = s'.text ++ (b'.text ++ []) := by
    simpa [Spelling.text] using written.trans written'.symm
  have read := congrArg sign same
  rw [sign_body, sign_body, List.append_nil, List.append_nil, Prefixed.mk.injEq] at read
  obtain ⟨negative, body⟩ := read
  cases b with
  | infinity => cases given
  | decimal m e? =>
      cases b' with
      | infinity => cases given'
      | decimal m' e?' =>
          rw [Spelling.amount?] at given given'
          cases given
          cases given'
          rw [scaled_of_text body]
          exact congrArg (signed · _) negative

end Numeral

structure Significant (ds : List Char) : Prop where
  digits : Digits ds
  given : ds ≠ []
  first : ds.head? ≠ some '0'
  last : ds.getLast? ≠ some '0'

def pointed (negative : Bool) (ds : List Char) (point : Int) : ℚ :=
  signed negative (natOf ds * 10 ^ (point - ds.length))

/-- How results lay digits out, by the place of the point. -/
inductive Laid (ds : List Char) (point : Int) : List Char → Prop where
  | whole (least : ds.length ≤ point) (most : point ≤ 21) :
      Laid ds point (ds ++ zeros (point - ds.length).toNat)
  | inner (positive : 0 < point) (less : point < ds.length) (most : point ≤ 21) :
      Laid ds point (ds.take point.toNat ++ '.' :: ds.drop point.toNat)
  | small (least : -6 < point) (most : point ≤ 0) :
      Laid ds point ('0' :: '.' :: zeros (-point).toNat ++ ds)
  | scaled {d : Char} {rest : List Char} (outside : point ≤ -6 ∨ 21 < point)
      (digits : ds = d :: rest) :
      Laid ds point ((d :: if rest = [] then [] else '.' :: rest) ++
        ['e', if point - 1 < 0 then '-' else '+'] ++ Decimal.digits (point - 1).natAbs)

/-- No zero stands in front of another digit or at the end behind a point, and no point is bare. -/
structure Neat (m : Mantissa) (e? : Option Exponent) : Prop where
  whole : m.whole ≠ []
  lead : m.whole.head? = some '0' → m.whole = ['0']
  fraction : ∀ ds, m.fraction? = some ds → ds ≠ [] ∧ ds.getLast? ≠ some '0'
  exponent : ∀ e, e? = some e → e.digits.head? ≠ some '0'

section Digits

theorem natOf_mod {ds : List Char} (digits : Digits ds) {c : Char} (last : ds.getLast? = some c) :
    natOf ds % 10 = asciiDigit c := by
  obtain ⟨front, rfl⟩ := List.getLast?_eq_some_iff.mp last
  have bound := asciiDigit_lt (digits c (by simp))
  rw [natOf_concat]
  omega

theorem asciiDigit_eq_zero {c : Char} (digit : isAsciiDigit c = true) :
    asciiDigit c = 0 ↔ c = '0' :=
  forall_digit (p := fun c => asciiDigit c = 0 ↔ c = '0') (by decide) digit

theorem Significant.reduced {ds : List Char} (significant : Significant ds) :
    natOf ds % 10 ≠ 0 := by
  obtain ⟨front, c, rfl⟩ := (List.eq_nil_or_concat ds).resolve_left significant.given
  have last : (front.concat c).getLast? = some c := by simp
  have digit := significant.digits c (by simp)
  rw [natOf_mod significant.digits last, Ne, asciiDigit_eq_zero digit]
  rintro rfl
  exact significant.last last

theorem head_digits {n : Nat} (given : n ≠ 0) : (Decimal.digits n).head? ≠ some '0' := by
  intro first
  obtain ⟨rest, text⟩ := List.head?_eq_some_iff.mp first
  have digits := digits_digits n
  have value := natOf_digits n
  have least := pow_digitCount_le given
  rw [text] at digits value
  have most : natOf rest < 10 ^ rest.length :=
    natOf_lt fun c mem => digits c (List.mem_cons_of_mem _ mem)
  have same : natOf ('0' :: rest) = natOf rest := rfl
  rw [digitCount, text, List.length_cons, Nat.add_sub_cancel] at least
  omega

theorem significant_digits {n : Nat} (reduced : n % 10 ≠ 0) : Significant (Decimal.digits n) where
  digits := digits_digits n
  given := digits_ne_nil n
  first := head_digits (by omega)
  last last := by
    apply reduced
    rw [← natOf_digits n, natOf_mod (digits_digits n) last]
    rfl

end Digits

theorem padded_one (n : Nat) : padded 1 n = Decimal.digits n := by
  have some : 1 - (Decimal.digits n).length = 0 := Nat.sub_eq_zero_of_le (digitCount_pos n)
  rw [padded, some]
  rfl

theorem laid_magnitude (d : Decimal) :
    Laid (Decimal.digits d.coefficient) d.point (result.magnitude d) := by
  have given := digits_ne_nil d.coefficient
  have digits := digits_digits d.coefficient
  rw [NumberStyle.magnitude]
  generalize Decimal.digits d.coefficient = ds at given digits
  generalize d.point = point
  split
  · rename_i inside
    obtain ⟨least, most⟩ := inside
    rw [positional]
    split
    · rename_i small
      exact .small least small
    · split
      · rename_i large
        have same : point.toNat - ds.length = (point - ds.length).toNat := by omega
        have bare : result.wholeEnd.toList = [] := rfl
        rw [same, bare, List.append_nil]
        exact .whole large most
      · exact .inner (by omega) (by omega) most
  · rename_i outside
    have beyond : point ≤ -6 ∨ 21 < point := by
      simp only [result] at outside
      omega
    obtain ⟨d, rest, rfl⟩ := List.exists_cons_of_ne_nil given
    have width : padded result.exponentWidth (point - 1).natAbs =
        Decimal.digits (point - 1).natAbs := padded_one _
    rw [scientific_eq spelled_result digits, text_leadMantissa, text_shifted, width,
      ← List.append_assoc]
    exact .scaled beyond rfl

section Neat

variable {ds : List Char} {point : Int} (significant : Significant ds)

theorem neat_whole (n : Nat) :
    Neat (wholeMantissa significant.digits significant.given false n) none where
  whole := by simp [wholeMantissa, significant.given]
  lead zero := by
    rw [wholeMantissa, List.head?_append_of_ne_nil _ significant.given] at zero
    exact absurd zero significant.first
  fraction := by simp [wholeMantissa]
  exponent := by simp

theorem neat_inner {n : Nat} (positive : 0 < n) (less : n < ds.length) :
    Neat (innerMantissa significant.digits significant.given n) none where
  whole := by
    simp only [innerMantissa, ne_eq, List.take_eq_nil_iff, significant.given, or_false]
    exact positive.ne'
  lead zero := by
    rw [innerMantissa, List.head?_take, if_neg positive.ne'] at zero
    exact absurd zero significant.first
  fraction := by
    rintro _ ⟨⟩
    refine ⟨by simpa using less, fun zero => significant.last ?_⟩
    rwa [List.getLast?_drop, if_neg (Nat.not_le.mpr less)] at zero
  exponent := by simp

theorem neat_small (n : Nat) : Neat (smallMantissa significant.digits n) none where
  whole := by simp [smallMantissa]
  lead _ := rfl
  fraction := by
    rintro _ ⟨⟩
    refine ⟨by simp [significant.given], fun zero => significant.last ?_⟩
    rwa [List.getLast?_append_of_ne_nil _ significant.given] at zero
  exponent := by simp

theorem neat_lead {d : Char} {rest : List Char} (significant : Significant (d :: rest))
    {shift : Int} (moved : shift ≠ 0) :
    Neat (leadMantissa significant.digits) (some (shifted 1 shift)) where
  whole := by simp [leadMantissa]
  lead zero := absurd zero significant.first
  fraction fraction shown := by
    cases rest with
    | nil => cases shown
    | cons e rest =>
        cases shown
        refine ⟨by simp, fun zero => significant.last ?_⟩
        rwa [List.getLast?_cons_cons]
  exponent := by
    rintro _ ⟨⟩
    change (padded 1 shift.natAbs).head? ≠ _
    rw [padded_one]
    exact head_digits (Int.natAbs_ne_zero.mpr moved)

include significant

theorem exists_neat {cs : List Char} (laid : Laid ds point cs) :
    ∃ m e?, (Body.decimal m e?).text = cs ∧ Neat m e? := by
  cases laid with
  | whole least most =>
      refine ⟨_, none, ?_, neat_whole significant (point - ds.length).toNat⟩
      simp [Body.text, text_wholeMantissa]
  | inner positive less most =>
      refine ⟨_, none, ?_, neat_inner significant (n := point.toNat) (by omega) (by omega)⟩
      exact List.append_nil _
  | small least most =>
      refine ⟨_, none, ?_, neat_small significant (-point).toNat⟩
      exact List.append_nil _
  | scaled outside same =>
      subst same
      have moved : point - 1 ≠ 0 := by omega
      refine ⟨_, _, ?_, neat_lead significant moved⟩
      simp [Body.text, text_leadMantissa, text_shifted, padded_one]

end Neat

section Numbers

variable {x : Float} (finite : x.isFinite = true) (some : magnitudeBits x ≠ 0)

include finite some

theorem denotes_text {style : NumberStyle} (spelled : Spelled style) :
    Denotes (style.text x) (signed (isNegative x) (ofFloat x).amount) := by
  obtain ⟨m, e?, text, same, -⟩ := exists_magnitude spelled (ofFloat x)
  refine ⟨⟨signOf (isNegative x), .decimal m e?⟩, ?_, ?_⟩
  · rw [text_finite style finite, if_neg some, Spelling.text, text, text_signOf]
    simp
  · simp only [Spelling.amount?, negative_signOf, same]

theorem reduced_ofFloat : (ofFloat x).Reduced := reduced_shortest (isFinite_iff.mp finite) some

end Numbers

/-- The text of a finite number that is not zero denotes the decimal that plain data shows, in the
layout for the place of its point and without needless zeros and points. -/
theorem formatNumber_form {x : Float} (finite : x.isFinite = true) (some : x ≠ 0.0 ∧ x ≠ -0.0) :
    (∃ negative ds point, Significant ds ∧
      Denotes (data.text x) (pointed negative ds point)) ∧
    ∀ negative ds point, Significant ds → Denotes (data.text x) (pointed negative ds point) →
      Denotes (formatNumber x) (pointed negative ds point) ∧
      ∃ cs, Laid ds point cs ∧ formatNumber x = signText negative ++ String.ofList cs ∧
        ∃ m e?, (Body.decimal m e?).text = cs ∧ Neat m e? := by
  have bits : magnitudeBits x ≠ 0 := fun none =>
    (magnitudeBits_eq_zero.mp none).elim some.1 some.2
  have shown := denotes_text finite bits spelled_data
  have denoted := denotes_text finite bits spelled_result
  have text := text_finite result finite
  have reduced := reduced_ofFloat finite bits
  rw [if_neg bits] at text
  rw [formatNumber]
  generalize ofFloat x = d at shown denoted text reduced
  refine ⟨?_, fun negative ds point significant denotes => ?_⟩
  · refine ⟨isNegative x, Decimal.digits d.coefficient, d.point, significant_digits reduced, ?_⟩
    rwa [pointed, natOf_digits, point_sub_length]
  · have same := denotes.unique shown
    have reduced' : Reduced ⟨false, natOf ds, point - ds.length⟩ := significant.reduced
    obtain ⟨rfl, amount⟩ := signed_inj (amount_pos reduced'.some) (amount_pos reduced.some) same
    obtain ⟨coefficient, exponent⟩ := reduced'.unique reduced amount
    have digits : Decimal.digits d.coefficient = ds := by
      rw [← coefficient]
      exact digits_natOf significant.digits significant.given significant.first
    have place : d.point = point := by
      have place := point_sub_length d
      rw [digits, ← exponent] at place
      exact sub_left_inj.mp place
    have laid := laid_magnitude d
    rw [digits, place] at laid
    exact ⟨same ▸ denoted, _, laid, text, exists_neat significant laid⟩

theorem formatNumber_form_small :
    data.text (-1.25e-7) = "-1.25e-07" ∧
    Significant ['1', '2', '5'] ∧
    Denotes (data.text (-1.25e-7)) (pointed true ['1', '2', '5'] (-6)) ∧
    formatNumber (-1.25e-7) = "-1.25e-7" ∧
    ∃ cs, Laid ['1', '2', '5'] (-6) cs ∧
      formatNumber (-1.25e-7) = signText true ++ String.ofList cs := by
  have shown : data.text (-1.25e-7) = "-1.25e-07" := by decide +kernel
  have significant : Significant ['1', '2', '5'] := ⟨by decide, by decide, by decide, by decide⟩
  have denotes : Denotes (data.text (-1.25e-7)) (pointed true ['1', '2', '5'] (-6)) := by
    rw [shown]
    exact ⟨⟨.minus, .decimal ⟨['1'], some ['2', '5'], by decide, by decide⟩
      (some ⟨'e', .minus, ['0', '7'], by decide, by decide, by decide⟩)⟩, by decide, rfl⟩
  have form := formatNumber_form (x := -1.25e-7) (by decide) ⟨by decide, by decide⟩
  obtain ⟨-, cs, laid, text, -⟩ := form.2 true _ _ significant denotes
  exact ⟨shown, significant, denotes, by decide +kernel, cs, laid, text⟩

end Formulary
