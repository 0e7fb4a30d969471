import Formulary.Proofs.Tokens.Canonical

set_option autoImplicit false

namespace Formulary.Token

open Text

def Tidy (cs : List Char) : Prop :=
  (∀ c ∈ cs, isBlank c = true → c = ' ') ∧ cs.IsChain fun a b => ¬(a = ' ' ∧ b = ' ')

instance (cs : List Char) : Decidable (Tidy cs) :=
  decidable_of_iff ((cs.all fun c => !isBlank c || c == ' ') ∧
    cs.IsChain fun a b => ¬(a = ' ' ∧ b = ' ')) (by simp [Tidy, ← Bool.not_eq_true, imp_iff_not_or])

theorem Tidy.tail {c : Char} {cs : List Char} (tidy : Tidy (c :: cs)) : Tidy cs :=
  ⟨fun d mem => tidy.1 d (List.mem_cons_of_mem _ mem), tidy.2.tail⟩

theorem Tidy.behind {cs ds : List Char} (tidy : Tidy (cs ++ ds)) : Tidy ds := by
  induction cs with
  | nil => exact tidy
  | cons c cs ih => exact ih tidy.tail

section Reading

theorem chars_ofReversed (read : List Char) : chars (ofReversed read) = read.reverse := by
  cases read <;> simp [ofReversed, text]

theorem chars_split (read cs : List Char) : chars (split read cs) = read.reverse ++ cs := by
  induction read, cs using split_induction with
  | done read => rw [split, chars_ofReversed, List.append_nil]
  | mark read m cs free ih =>
      rw [split_mark m read free, chars_append, chars_ofReversed, chars_cons, text, ih]
      rfl
  | plain read c cs unknown ih =>
      rw [split_plain unknown, ih, List.reverse_cons, List.append_assoc]
      rfl

def Plain (cs : List Char) : Prop := ∀ c ∈ cs, isBlank c = false ∧ Separator.ofChar? c = none

theorem word_ofReversed {read : List Char} (plain : Plain read) {w : String}
    (mem : .word w ∈ ofReversed read) : IsWord w := by
  cases read with
  | nil => cases mem
  | cons c read =>
      obtain rfl : w = String.ofList (c :: read).reverse := by simpa [ofReversed] using mem
      refine ⟨by simp, ?_⟩
      rw [String.toList_ofList]
      exact fun d mem => plain d (List.mem_reverse.mp mem)

theorem plain_cons {c : Char} {cs read : List Char} (tidy : Tidy (c :: cs))
    (unknown : Separator.ofChar? c = none) (plain : Plain read) : Plain (c :: read) := by
  intro d mem
  obtain rfl | mem := List.mem_cons.mp mem
  · refine ⟨?_, unknown⟩
    rw [← Bool.not_eq_true]
    intro blank
    rw [tidy.1 d (List.mem_cons_self ..) blank] at unknown
    cases unknown
  · exact plain d mem

theorem words_split {read cs : List Char} (tidy : Tidy cs) (plain : Plain read) {w : String}
    (mem : .word w ∈ split read cs) : IsWord w := by
  induction read, cs using split_induction with
  | done read => exact word_ofReversed plain (by rwa [split] at mem)
  | mark read m cs free ih =>
      rw [split_mark m read free] at mem
      obtain mem | mem := List.mem_append.mp mem
      · exact word_ofReversed plain mem
      · exact ih tidy.behind (by simp [Plain]) (by simpa using mem)
  | plain read c cs unknown ih =>
      rw [split_plain unknown] at mem
      exact ih tidy.tail (plain_cons tidy unknown plain) mem

theorem apart_split {read cs : List Char} (tidy : Tidy cs) (plain : Plain read) :
    (split read cs).IsChain Apart := by
  have single {read : List Char} : (ofReversed read).IsChain Apart := by
    cases read <;> simp [ofReversed]
  induction read, cs using split_induction with
  | done read => rw [split]; exact single
  | mark read m cs free ih =>
      have others := ih tidy.behind (by simp [Plain])
      have behind : ∀ t, (split [] cs).head? = some t → Apart (.mark m) t := by
        intro t head
        refine ⟨by simp, fun c mem first => ?_⟩
        have words : ∀ w, .word w ∈ split [] cs → IsWord w :=
          fun w mem => words_split tidy.behind (by simp [Plain]) mem
        have start := head_chars words
        rw [chars_split, head, Option.bind_some, first] at start
        obtain ⟨cs, rfl⟩ := List.head?_eq_some_iff.mp start
        cases m
        case space =>
          obtain rfl : c = ' ' := by simpa [barred] using mem
          exact (List.isChain_cons_cons.mp tidy.2).1 ⟨rfl, rfl⟩
        all_goals exact free c mem rfl
      have chain := List.isChain_cons.mpr ⟨behind, others⟩
      rw [split_mark m read free]
      cases read with
      | nil => exact chain
      | cons c read => exact List.isChain_cons_cons.mpr ⟨⟨by simp, by simp [barred]⟩, chain⟩
  | plain read c cs unknown ih =>
      rw [split_plain unknown]
      exact ih tidy.tail (plain_cons tidy unknown plain)

end Reading

section Squeezed

theorem tidy_squeezeFrom (inRun : Bool) (cs : List Char) :
    Tidy (squeezeFrom inRun cs) ∧ (inRun = true → (squeezeFrom inRun cs).head? ≠ some ' ') := by
  induction cs generalizing inRun with
  | nil => exact ⟨⟨by simp [squeezeFrom], by simp [squeezeFrom]⟩, by simp [squeezeFrom]⟩
  | cons c cs ih =>
      rw [squeezeFrom]
      by_cases blank : isBlank c = true
      · rw [if_pos blank]
        cases inRun with
        | true => exact ih true
        | false =>
            obtain ⟨tidy, next⟩ := ih true
            refine ⟨⟨?_, List.isChain_cons.mpr ⟨?_, tidy.2⟩⟩, by simp⟩
            · intro d mem _
              obtain rfl | mem := List.mem_cons.mp mem
              · rfl
              · exact tidy.1 d mem (by assumption)
            · rintro d head ⟨-, rfl⟩
              exact next rfl head
      · rw [if_neg blank]
        obtain ⟨tidy, -⟩ := ih false
        have visible : c ≠ ' ' := by
          rintro rfl
          exact blank rfl
        refine ⟨⟨?_, List.isChain_cons.mpr ⟨?_, tidy.2⟩⟩, by simp [visible]⟩
        · intro d mem blank'
          obtain rfl | mem := List.mem_cons.mp mem
          · exact absurd blank' blank
          · exact tidy.1 d mem blank'
        · rintro d _ ⟨rfl, -⟩
          exact visible rfl

theorem head?_squeeze {cs : List Char} (first : ∀ c, cs.head? = some c → isBlank c = false) :
    (squeeze cs).head? = cs.head? := by
  cases cs with
  | nil => rfl
  | cons c cs => simp [squeeze, squeezeFrom, first c rfl]

theorem getLast?_squeezeFrom {cs : List Char}
    (last : ∀ c, cs.getLast? = some c → isBlank c = false) (inRun : Bool) :
    (squeezeFrom inRun cs).getLast? = cs.getLast? := by
  induction cs generalizing inRun with
  | nil => rfl
  | cons c cs ih =>
      cases cs with
      | nil => simp [squeezeFrom, last c rfl]
      | cons d cs =>
          have same := ih (by simpa using last)
          have behind (b : Char) (inRun : Bool) :
              (b :: squeezeFrom inRun (d :: cs)).getLast? = (c :: d :: cs).getLast? := by
            rw [List.getLast?_cons, same, List.getLast?_cons_cons]
            cases final : (d :: cs).getLast? with
            | none => simp at final
            | some e => rfl
          rw [squeezeFrom]
          by_cases blank : isBlank c = true
          · rw [if_pos blank]
            cases inRun with
            | true => rw [if_pos rfl, same, List.getLast?_cons_cons]
            | false => exact behind ' ' true
          · rw [if_neg blank]
            exact behind c false

theorem head?_trimStart (cs : List Char) :
    ∀ c, (trimStart cs).head? = some c → isBlank c = false := by
  intro c head
  have outcome := List.head?_dropWhile_not isBlank cs
  rw [trimStart] at head
  rw [head] at outcome
  exact outcome

theorem getLast?_trim (cs : List Char) :
    ∀ c, (trim cs).getLast? = some c → isBlank c = false := by
  intro c final
  rw [trim, List.getLast?_reverse] at final
  exact head?_trimStart _ c final

theorem head?_trim (cs : List Char) : ∀ c, (trim cs).head? = some c → isBlank c = false := by
  intro c head
  rw [trim, List.head?_reverse] at head
  obtain ⟨taken, whole⟩ : trimStart (trimStart cs).reverse <:+ (trimStart cs).reverse :=
    List.dropWhile_suffix _
  apply head?_trimStart cs c
  rw [← List.getLast?_reverse, ← whole, List.getLast?_append, head]
  rfl

theorem tidy_normalized (e : String) : Tidy (normalized e) := (tidy_squeezeFrom false _).1

theorem canonical_tokens (e : String) : Canonical (tokens e) := by
  have tidy := tidy_normalized e
  have words : ∀ w, .word w ∈ tokens e → IsWord w :=
    fun w mem => words_split tidy (by simp [Plain]) mem
  have text : chars (tokens e) = normalized e := chars_split [] (normalized e)
  refine ⟨words, apart_split tidy (by simp [Plain]), fun start => ?_, fun stop => ?_⟩
  · have head := head_chars words
    rw [text, start, normalized, head?_squeeze (head?_trim _)] at head
    exact absurd (head?_trim _ ' ' head) (by decide)
  · have final := getLast?_chars words
    rw [text, stop, normalized, squeeze, getLast?_squeezeFrom (getLast?_trim _)] at final
    exact absurd (getLast?_trim _ ' ' final) (by decide)

end Squeezed

end Formulary.Token
