import Mathlib.Data.List.Infix
import Formulary.Proofs.Function.Lookup
import Formulary.Proofs.Reading.Steps
import Formulary.Proofs.Tokens.Canonical

set_option autoImplicit false

namespace Formulary.Function

open Text

theorem made_of_mem {s : Signature} (known : s ∈ builtIn.signatures) : s.Made := by
  refine ⟨s.name, s.parameters, s.returns, s.body, ?_⟩
  simp only [builtIn, List.mem_cons, List.not_mem_nil, or_false] at known
  rcases known with rfl | rfl | rfl | rfl | rfl | rfl | rfl | rfl | rfl | rfl | rfl | rfl | rfl |
    rfl
  all_goals rfl

def nameChars : List Char :=
  (List.range' 0x41 26 ++ List.range' 0x61 26).map Char.ofNat ++ ['ı', 'ſ']

theorem capital_names : ∀ n ∈ builtIn.names, ∀ c ∈ n.toList, 'A' ≤ c ∧ c ≤ 'Z' := by
  have checked : ∀ n ∈ builtIn.names,
      (n.toList.all fun c => decide ('A' ≤ c ∧ c ≤ 'Z')) = true := by
    decide +kernel
  exact fun n mem => forall_mem_of_all (checked n mem)

theorem mem_nameChars_of_toUpper {c : Char} (capital : 'A' ≤ c.toUpper ∧ c.toUpper ≤ 'Z') :
    c ∈ nameChars := by
  have letter : (0x41 ≤ c.toNat ∧ c.toNat ≤ 0x5A) ∨ (0x61 ≤ c.toNat ∧ c.toNat ≤ 0x7A) := by
    by_cases small : c.val ≥ 'a'.val ∧ c.val ≤ 'z'.val
    · exact .inr small
    · have same : c.toUpper = c := dif_neg small
      rw [same] at capital
      exact .inl capital
  apply List.mem_append_left
  rw [List.mem_map]
  refine ⟨c.toNat, ?_, Char.ofNat_toNat c⟩
  rw [List.mem_append, List.mem_range'_1, List.mem_range'_1]
  omega

theorem expansions_unused : ∀ p ∈ upperExpansions, (∀ n ∈ p.2, 0x41 ≤ n ∧ n ≤ 0x5A) →
    ∀ name ∈ builtIn.names, ¬p.2.map Char.ofNat <:+: name.toList := by
  decide +kernel

theorem runs_to_capitals : ∀ r ∈ upperRuns, r.last < 0x80 ∨ 0x5A < r.first + r.shift ∨
    r.first = r.last ∧ (Char.ofNat r.first = 'ı' ∨ Char.ofNat r.first = 'ſ') := by
  decide +kernel

theorem point_of_capital {n : Nat} (capital : 'A' ≤ Char.ofNat n ∧ Char.ofNat n ≤ 'Z') :
    0x41 ≤ n ∧ n ≤ 0x5A := by
  obtain point | none := ofNat_cases n
  · rw [← point]
    exact capital
  · rw [none] at capital
    exact absurd capital.1 (by decide)

theorem mem_nameChars_of_infix {name : String} (known : name ∈ builtIn.names) {c : Char}
    (inside : upperChar c <:+: name.toList) : c ∈ nameChars := by
  have capital : ∀ d ∈ upperChar c, 'A' ≤ d ∧ d ≤ 'Z' := fun d mem =>
    capital_names name known d (inside.subset mem)
  obtain ⟨-, same⟩ | ⟨beyond, ⟨p, mem, same⟩ | ⟨r, mem, covered, same⟩ | same⟩ :=
    upperChar_cases c
  · rw [same, List.forall_mem_singleton] at capital
    exact mem_nameChars_of_toUpper capital
  · rw [same] at inside capital
    have points : ∀ n ∈ p.2, 0x41 ≤ n ∧ n ≤ 0x5A := fun n here =>
      point_of_capital (capital _ (List.mem_map_of_mem here))
    exact absurd inside (expansions_unused p mem points name known)
  · rw [same, List.forall_mem_singleton] at capital
    have image := point_of_capital capital
    obtain ⟨above, below, -⟩ := CaseRun.covers_iff.mp covered
    obtain low | high | ⟨single, letter⟩ := runs_to_capitals r mem
    · omega
    · omega
    · have here : r.first = c.toNat := by omega
      rw [here, Char.ofNat_toNat] at letter
      obtain rfl | rfl := letter <;> decide
  · rw [same, List.forall_mem_singleton] at capital
    have below : c.toNat ≤ 0x5A := capital.2
    omega

theorem plain_nameChars : ∀ c ∈ nameChars,
    (isBlank c = false ∧ Separator.ofChar? c = none) ∧ isAsciiDigit c = false ∧ c ≠ '.' :=
  forall_mem_of_all (by decide +kernel)

theorem lower_nameChars :
    ∀ c ∈ nameChars, c ≠ 'Σ' ∧ (lowerChar c).flatMap upperChar = upperChar c :=
  forall_mem_of_all (by decide +kernel)

theorem letter_nameChars :
    ∀ c ∈ nameChars, isAsciiLetter c = true ∨ upperChar c ⊆ ['I', 'S'] :=
  forall_mem_of_all (by decide +kernel)

theorem other_letters : ∀ n ∈ builtIn.names, ¬n.toList ⊆ ['I', 'S'] := by decide +kernel

section Known

variable {w : String} (known : (builtIn.find? w).isSome = true)

include known

theorem upper_mem_names : upper w ∈ builtIn.names := by
  rw [← Catalog.contains_eq] at known
  exact List.contains_iff_mem.mp known

theorem mem_nameChars {c : Char} (mem : c ∈ w.toList) : c ∈ nameChars := by
  obtain ⟨before, after, same⟩ := List.append_of_mem mem
  apply mem_nameChars_of_infix (upper_mem_names known)
  rw [upper, String.toList_ofList, same, List.flatMap_append, List.flatMap_cons]
  exact ⟨before.flatMap upperChar, after.flatMap upperChar, by simp⟩

theorem ne_empty_of_known : w.toList ≠ [] := by
  intro empty
  have named := upper_mem_names known
  rw [upper, empty] at named
  exact absurd named (by decide)

theorem isWord_of_known : Token.IsWord w :=
  ⟨ne_empty_of_known known, fun c mem => (plain_nameChars c (mem_nameChars known mem)).1⟩

theorem startsNumber_of_known : Rule.startsNumber w = false := by
  obtain ⟨c, cs, text⟩ := List.exists_cons_of_ne_nil (ne_empty_of_known known)
  obtain ⟨-, digit, point⟩ := plain_nameChars c (mem_nameChars known (by simp [text]))
  simp [Rule.startsNumber, text, digit, point]

theorem isKeyword_of_known : Token.isKeyword w = false := by
  have each := fun c mem => lower_nameChars c (mem_nameChars known mem)
  have back := upper_lower (fun sigma => (each _ sigma).1 rfl) fun c mem => (each c mem).2
  have other (keyword : String) (unknown : upper keyword ∉ builtIn.names) : lower w ≠ keyword := by
    rintro rfl
    rw [back] at unknown
    exact unknown (upper_mem_names known)
  have yes := other "true" (by decide)
  have no := other "false" (by decide)
  simp [Token.isKeyword, Token.boolean?, yes, no]

theorem hasNameStart_of_known : Rule.hasNameStart w = true := by
  by_contra none
  apply other_letters _ (upper_mem_names known)
  intro d mem
  rw [upper, String.toList_ofList, List.mem_flatMap] at mem
  obtain ⟨c, mem, upperCased⟩ := mem
  have letter : ¬isAsciiLetter c = true := fun letter =>
    none (List.any_eq_true.mpr ⟨c, mem, by simp [letter]⟩)
  exact (letter_nameChars c (mem_nameChars known mem)).resolve_left letter upperCased

theorem isName_of_known : Token.isName w = true := by
  simp [Token.isName, startsNumber_of_known known, isKeyword_of_known known,
    hasNameStart_of_known known]

end Known

end Formulary.Function
