import Formulary.Proofs.Tokens.Inner

set_option autoImplicit false

namespace Formulary

namespace Text

section Squeezed

variable {cs xs ys w : List Char}

theorem squeezeFrom_eq_append_cons {c : Char} (visible : isBlank c = false) {inRun : Bool}
    (squeezed : squeezeFrom inRun cs = xs ++ c :: ys) :
    ∃ front back, cs = front ++ c :: back ∧ squeezeFrom inRun front = xs ∧
      squeezeFrom false back = ys := by
  induction cs generalizing inRun xs with
  | nil => exact absurd squeezed.symm (by simp [squeezeFrom])
  | cons d cs ih =>
      -- Unless `c` is right here, it is found behind `d`.
      have past {inRun' : Bool} {xs' : List Char}
          (squeezed : squeezeFrom inRun' cs = xs' ++ c :: ys)
          (joined : ∀ front, squeezeFrom inRun' front = xs' → squeezeFrom inRun (d :: front) = xs) :
          ∃ front back, d :: cs = front ++ c :: back ∧ squeezeFrom inRun front = xs ∧
            squeezeFrom false back = ys := by
        obtain ⟨front, back, rfl, before, behind⟩ := ih squeezed
        exact ⟨d :: front, back, rfl, joined front before, behind⟩
      rw [squeezeFrom] at squeezed
      by_cases blank : isBlank d = true
      · rw [if_pos blank] at squeezed
        cases inRun with
        | true => exact past squeezed fun front before => by simp [squeezeFrom, blank, before]
        | false =>
            cases xs with
            | nil =>
                obtain ⟨rfl, -⟩ := List.cons.inj squeezed
                cases visible
            | cons x xs =>
                obtain ⟨rfl, others⟩ := List.cons.inj squeezed
                exact past others fun front before => by simp [squeezeFrom, blank, before]
      · rw [if_neg blank] at squeezed
        cases xs with
        | nil =>
            obtain ⟨rfl, others⟩ := List.cons.inj squeezed
            exact ⟨[], cs, rfl, rfl, others⟩
        | cons x xs =>
            obtain ⟨rfl, others⟩ := List.cons.inj squeezed
            exact past others fun front before => by simp [squeezeFrom, blank, before]

theorem squeezeFrom_eq_append (plain : ∀ c ∈ w, isBlank c = false)
    (squeezed : squeezeFrom false cs = w ++ ys) :
    ∃ back, cs = w ++ back ∧ squeezeFrom false back = ys := by
  induction w generalizing cs with
  | nil => exact ⟨cs, rfl, squeezed⟩
  | cons c w ih =>
      obtain ⟨visible, others⟩ := List.forall_mem_cons.mp plain
      cases cs with
      | nil => cases squeezed
      | cons d cs =>
          rw [squeezeFrom] at squeezed
          by_cases blank : isBlank d = true
          · rw [if_pos blank] at squeezed
            obtain ⟨rfl, -⟩ := List.cons.inj squeezed
            cases visible
          · rw [if_neg blank] at squeezed
            obtain ⟨rfl, rest⟩ := List.cons.inj squeezed
            obtain ⟨back, rfl, behind⟩ := ih others rest
            exact ⟨back, rfl, behind⟩

theorem squeeze_eq_around (given : w ≠ []) (plain : ∀ c ∈ w, isBlank c = false)
    (squeezed : squeeze cs = xs ++ (w ++ ys)) :
    ∃ front back, cs = front ++ (w ++ back) ∧ squeeze front = xs ∧ squeeze back = ys := by
  obtain ⟨c, w, rfl⟩ := List.exists_cons_of_ne_nil given
  obtain ⟨visible, plain⟩ := List.forall_mem_cons.mp plain
  obtain ⟨front, others, rfl, before, squeezed⟩ := squeezeFrom_eq_append_cons visible squeezed
  obtain ⟨back, rfl, behind⟩ := squeezeFrom_eq_append plain squeezed
  exact ⟨front, back, rfl, before, behind⟩

theorem squeeze_around (given : w ≠ []) (plain : ∀ c ∈ w, isBlank c = false)
    (front back : List Char) :
    squeeze (front ++ (w ++ back)) = squeeze front ++ (w ++ squeeze back) := by
  obtain ⟨c, w, rfl⟩ := List.exists_cons_of_ne_nil given
  have visible := (List.forall_mem_cons.mp plain).1
  have alone := Token.squeezeFrom_plain given plain false back
  rw [List.cons_append, squeezeFrom, if_neg (by simp [visible])] at alone
  rw [squeeze, List.cons_append, squeezeFrom_append visible, alone]
  rfl

end Squeezed

section Trimmed

theorem exists_margins (cs : List Char) :
    ∃ left right, cs = left ++ (trim cs ++ right) ∧ (∀ c ∈ left, isBlank c = true) ∧
      ∀ c ∈ right, isBlank c = true := by
  have stripped (ds : List Char) : ∃ margin, ds = margin ++ trimStart ds ∧
      ∀ c ∈ margin, isBlank c = true :=
    ⟨ds.takeWhile isBlank, (List.takeWhile_append_dropWhile ..).symm,
      fun _ => List.mem_takeWhile_imp⟩
  obtain ⟨left, start, blank⟩ := stripped cs
  obtain ⟨right, stop, blank'⟩ := stripped (trimStart cs).reverse
  refine ⟨left, right.reverse, ?_, blank, fun c mem => blank' c (List.mem_reverse.mp mem)⟩
  have stop := congrArg List.reverse stop
  rw [List.reverse_reverse, List.reverse_append] at stop
  rw [trim, ← stop, ← start]

theorem trim_margins {left cs right : List Char} (given : cs ≠ [])
    (blank : ∀ c ∈ left, isBlank c = true) (blank' : ∀ c ∈ right, isBlank c = true)
    (first : ∀ c, cs.head? = some c → isBlank c = false)
    (last : ∀ c, cs.getLast? = some c → isBlank c = false) :
    trim (left ++ (cs ++ right)) = cs := by
  have start : trimStart (left ++ (cs ++ right)) = cs ++ right := by
    rw [trimStart, List.dropWhile_append_of_pos blank]
    apply Token.trimStart_of_head
    intro c head
    rw [List.head?_append_of_ne_nil _ given] at head
    exact first c head
  rw [trim, start, List.reverse_append, trimStart,
    List.dropWhile_append_of_pos fun c mem => blank' c (List.mem_reverse.mp mem)]
  have stop : trimStart cs.reverse = cs.reverse := Token.trimStart_of_head (by simpa using last)
  rw [trimStart] at stop
  rw [stop, List.reverse_reverse]

variable {front v w back : List Char}

theorem head?_around (given : w ≠ []) (plain : ∀ c ∈ w, isBlank c = false)
    (first : ∀ c, (front ++ (v ++ back)).head? = some c → isBlank c = false) :
    ∀ c, (front ++ (w ++ back)).head? = some c → isBlank c = false := by
  cases front with
  | cons d front => exact first
  | nil =>
      intro c head
      rw [List.nil_append, List.head?_append_of_ne_nil _ given] at head
      exact plain c (List.mem_of_head? head)

theorem getLast?_around (given : w ≠ []) (plain : ∀ c ∈ w, isBlank c = false)
    (last : ∀ c, (front ++ (v ++ back)).getLast? = some c → isBlank c = false) :
    ∀ c, (front ++ (w ++ back)).getLast? = some c → isBlank c = false := by
  have turned (w : List Char) :
      (front ++ (w ++ back)).getLast? = (back.reverse ++ (w.reverse ++ front.reverse)).head? := by
    rw [← List.head?_reverse]
    simp
  rw [turned] at last ⊢
  exact head?_around (by simpa using given) (by simpa using plain) last

end Trimmed

end Text

namespace Token

open Text

section Word

theorem isSome_of_barred {t : Token} {c : Char} (mem : c ∈ barred t) :
    (Separator.ofChar? c).isSome = true := by
  cases t with
  | word v => cases mem
  | mark m =>
      have each : ((barred (.mark m)).all fun c => (Separator.ofChar? c).isSome) = true := by
        cases m <;> decide
      exact List.all_eq_true.mp each c mem

theorem word_apart_iff {w : String} {t : Token} : Apart (.word w) t ↔ ∀ v, t ≠ .word v := by
  constructor
  · exact fun apart v => apart.1 w v rfl
  · exact fun marked => ⟨fun _ v _ => marked v, nofun⟩

variable {w : String} (word : IsWord w)

include word

theorem IsWord.visible : ∀ c ∈ w.toList, isBlank c = false := fun c mem => (word.2 c mem).1

theorem apart_word_iff {t : Token} : Apart t (.word w) ↔ ∀ v, t ≠ .word v := by
  constructor
  · exact fun apart v same => apart.1 v w same rfl
  · refine fun marked => ⟨fun v _ same => absurd same (marked v), fun c mem head => ?_⟩
    have unknown := (word.2 c (List.mem_of_head? head)).2
    have marks := isSome_of_barred mem
    rw [unknown] at marks
    cases marks

variable {f : String} {before after : List Token}

theorem chain_reworded (known : IsWord f) (apart : (before ++ .word f :: after).IsChain Apart) :
    (before ++ .word w :: after).IsChain Apart := by
  rw [List.isChain_append, List.isChain_cons] at apart ⊢
  obtain ⟨front, ⟨behind, others⟩, joint⟩ := apart
  refine ⟨front, ⟨fun t head => word_apart_iff.mpr (word_apart_iff.mp (behind t head)), others⟩, ?_⟩
  rintro t last _ ⟨⟩
  exact (apart_word_iff word).mpr ((apart_word_iff known).mp (joint t last _ rfl))

theorem words_reworded (words : ∀ v, .word v ∈ before ++ .word f :: after → IsWord v) :
    ∀ v, .word v ∈ before ++ .word w :: after → IsWord v := by
  simp only [List.mem_append, List.mem_cons, Token.word.injEq] at words ⊢
  rintro v (mem | rfl | mem)
  · exact words v (.inl mem)
  · exact word
  · exact words v (.inr (.inr mem))

end Word

/-- A word among the tokens has its place in the expression, where any other word becomes a token in
its place. -/
theorem exists_place {e f : String} {before after : List Token}
    (given : tokens e = before ++ .word f :: after) :
    ∃ front back, e = front ++ f ++ back ∧
      ∀ g, IsWord g → tokens (front ++ g ++ back) = before ++ .word g :: after := by
  have canonical := canonical_tokens e
  have text : squeeze (trim e.toList) = chars before ++ (f.toList ++ chars after) := by
    have text : chars (tokens e) = normalized e := chars_split [] (normalized e)
    rw [given, chars_append] at text
    exact text.symm
  rw [given] at canonical
  have known : IsWord f := canonical.words f (by simp)
  obtain ⟨front, back, trimmed, before_eq, after_eq⟩ :=
    squeeze_eq_around known.1 known.visible text
  obtain ⟨left, right, whole, blank, blank'⟩ := exists_margins e.toList
  refine ⟨String.ofList (left ++ front), String.ofList (back ++ right), ?_, fun g word => ?_⟩
  · apply String.toList_injective
    rw [whole, trimmed]
    simp
  have first := head?_around word.1 word.visible (trimmed ▸ head?_trim e.toList)
  have last := getLast?_around word.1 word.visible (trimmed ▸ getLast?_trim e.toList)
  have written : (String.ofList (left ++ front) ++ g ++ String.ofList (back ++ right)).toList =
      left ++ ((front ++ (g.toList ++ back)) ++ right) := by simp
  rw [tokens, normalized, written, trim_margins (by simp [word.1]) blank blank' first last,
    squeeze_around word.1 word.visible, before_eq, after_eq]
  have joined : chars before ++ (g.toList ++ chars after) = chars (before ++ .word g :: after) := by
    rw [chars_append, chars_cons]
    rfl
  rw [joined]
  exact split_chars (words_reworded word canonical.words)
    (chain_reworded word known canonical.apart)

end Token

end Formulary
