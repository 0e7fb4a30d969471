import Formulary.Proofs.Tokens.Tidy

set_option autoImplicit false

namespace Formulary

namespace Text

def words (cs : List Char) : List (List Char) := (cs.splitOnP isBlank).filter (!·.isEmpty)

def spaced (cs : List Char) : List Char := [' '].intercalate (words cs)

section Words

variable {c : Char} {cs : List Char}

@[simp] theorem words_nil : words [] = [] := rfl

theorem words_blank (blank : isBlank c = true) : words (c :: cs) = words cs := by
  simp [words, List.splitOnP_cons_eq_if_modifyHead, blank]

theorem words_append_blank (blank : isBlank c = true) : words (cs ++ [c]) = words cs := by
  simp [words, List.splitOnP_append_cons cs [] blank]

theorem words_visible (cs : List Char) (visible : isBlank c = false) :
    (∃ w ws, words cs = w :: ws ∧ (∀ d, cs.head? = some d → isBlank d = false) ∧
      words (c :: cs) = (c :: w) :: ws) ∨
    ((∀ d, cs.head? = some d → isBlank d = true) ∧ words (c :: cs) = [c] :: words cs) := by
  cases cs with
  | nil => exact .inr ⟨by simp, by simp [words, List.splitOnP_cons_eq_if_modifyHead, visible]⟩
  | cons d ds =>
      by_cases blank : isBlank d = true
      · refine .inr ⟨by simpa using blank, ?_⟩
        simp [words, List.splitOnP_cons_eq_if_modifyHead, visible, blank]
      · obtain ⟨v, vs, split⟩ := List.exists_cons_of_ne_nil (List.splitOnP_ne_nil isBlank ds)
        refine .inl ⟨d :: v, vs.filter (!·.isEmpty), ?_, by simpa using blank, ?_⟩ <;>
          simp [words, List.splitOnP_cons_eq_if_modifyHead, visible, blank, split]

theorem words_ne_nil (last : ∀ d, cs.getLast? = some d → isBlank d = false) (given : cs ≠ []) :
    words cs ≠ [] := by
  induction cs with
  | nil => exact absurd rfl given
  | cons c cs ih =>
      cases visible : isBlank c with
      | true =>
          rw [words_blank visible]
          cases cs with
          | nil => simp [last c rfl] at visible
          | cons d ds => exact ih (by simpa using last) (by simp)
      | false =>
          obtain ⟨w, ws, -, -, split⟩ | ⟨-, split⟩ := words_visible cs visible <;>
            simp [split]

theorem spaced_blank (blank : isBlank c = true) : spaced (c :: cs) = spaced cs := by
  rw [spaced, words_blank blank, spaced]

theorem squeezeFrom_spaced (last : ∀ d, cs.getLast? = some d → isBlank d = false) :
    squeezeFrom true cs = spaced cs ∧
      squeezeFrom false cs =
        (if cs.head?.any isBlank then [' '] else []) ++ spaced cs := by
  induction cs with
  | nil => simp [squeezeFrom, spaced]
  | cons c cs ih =>
      have lastBehind : ∀ d, cs.getLast? = some d → isBlank d = false := by
        intro d final
        exact last d (by rw [List.getLast?_cons, final]; rfl)
      obtain ⟨inside, outside⟩ := ih lastBehind
      cases blank : isBlank c with
      | true =>
          rw [spaced_blank blank]
          simp [squeezeFrom, blank, inside]
      | false =>
          have goes : c :: squeezeFrom false cs = spaced (c :: cs) := by
            obtain ⟨w, ws, here, first, split⟩ | ⟨first, split⟩ := words_visible cs blank
            · rw [outside, if_neg (by simpa [Option.any_eq_false] using first), spaced, spaced, here,
                split]
              cases ws <;> simp
            · cases cs with
              | nil => simp [squeezeFrom, spaced, split]
              | cons d ds =>
                  obtain ⟨w, ws, given⟩ :=
                    List.exists_cons_of_ne_nil (words_ne_nil lastBehind (by simp))
                  rw [outside, if_pos (by simpa using first), spaced, spaced, split, given]
                  simp
          simp [squeezeFrom, blank, goes]

theorem words_trimStart (cs : List Char) : words (trimStart cs) = words cs := by
  induction cs with
  | nil => rfl
  | cons c cs ih =>
      cases blank : isBlank c with
      | true => rw [words_blank blank, ← ih]; simp [trimStart, blank]
      | false => simp [trimStart, blank]

theorem words_trimEnd (cs : List Char) : words (trimStart cs.reverse).reverse = words cs := by
  induction cs using List.reverseRecOn with
  | nil => rfl
  | append_singleton cs c ih =>
      cases blank : isBlank c with
      | true => rw [words_append_blank blank, ← ih]; simp [trimStart, blank]
      | false => simp [trimStart, blank]

end Words

open Token in
theorem squeeze_trim (cs : List Char) : squeeze (trim cs) = spaced cs := by
  have first : ¬(trim cs).head?.any isBlank = true := by
    rw [Option.any_eq_true]
    rintro ⟨d, head, blank⟩
    rw [head?_trim cs d head] at blank
    cases blank
  rw [squeeze, (squeezeFrom_spaced (getLast?_trim cs)).2, if_neg first, List.nil_append, spaced,
    trim, words_trimEnd, words_trimStart, spaced]

end Text

namespace Token

def IsSeparator (p : String) : Prop := ∃ m : Separator, p = m.text

def IsRun (p : String) : Prop := ∀ c ∈ p.toList, ∀ m : Separator, c ∉ m.text.toList

/-- A text cut up into separators, two characters long where they can be, and the runs between
them. -/
structure Cut (cs : List Char) (pieces : List String) : Prop where
  nonempty : ∀ p ∈ pieces, p ≠ ""
  joined : (String.join pieces).toList = cs
  kinds : ∀ p ∈ pieces, IsSeparator p ∨ IsRun p
  runs : pieces.IsChain fun p q => ¬(IsRun p ∧ IsRun q)
  less : pieces.IsChain fun p q => p = "<" → q.toList.head? ≠ some '=' ∧ q.toList.head? ≠ some '>'
  greater : pieces.IsChain fun p q => p = ">" → q.toList.head? ≠ some '='

theorem ofChar?_eq_none {c : Char} :
    Separator.ofChar? c = none ↔ ∀ m : Separator, c ∉ m.text.toList := by
  constructor
  · intro none m mem
    have known : ∀ d ∈ m.text.toList, (Separator.ofChar? d).isSome := by
      cases m <;> simp [Separator.text, Separator.ofChar?]
    simpa [none] using known c mem
  · intro free
    cases known : Separator.ofChar? c with
    | none => rfl
    | some m => exact absurd (by simp [text_of_ofChar? known]) (free m)

theorem not_isRun_mark (m : Separator) : ¬IsRun m.text := by
  intro run
  obtain ⟨c, cs, text⟩ := List.exists_cons_of_ne_nil (text_ne_nil (t := .mark m) nofun)
  have mem : c ∈ m.text.toList := by
    change m.text.toList = c :: cs at text
    simp [text]
  exact run c mem m mem

theorem isRun_word {w : String} (word : IsWord w) : IsRun w :=
  fun c mem => ofChar?_eq_none.mp (word.2 c mem).2

theorem eq_mark {t : Token} {m : Separator} (words : ∀ w, .word w = t → IsWord w)
    (same : t.text = m.text) : t = .mark m := by
  have alone : split [] (chars [t]) = [t] := by
    apply split_chars _ (.singleton t)
    intro w mem
    exact words w (List.mem_singleton.mp mem)
  have mark : split [] (chars [.mark m]) = [.mark m] := split_chars (by simp) (.singleton _)
  rw [chars_cons, same] at alone
  exact (List.cons.inj (alone.symm.trans mark)).1

section Cut

variable {ts : List Token}

theorem chars_eq_join (ts : List Token) : (String.join (ts.map text)).toList = chars ts := by
  simp [chars, List.flatMap_map]

theorem cut_of_canonical (canonical : Canonical ts) : Cut (chars ts) (ts.map text) where
  nonempty := by
    intro p mem empty
    obtain ⟨t, given, rfl⟩ := List.mem_map.mp mem
    apply text_ne_nil (t := t) fun w same => canonical.words w (same ▸ given)
    rw [empty, String.toList_empty]
  joined := chars_eq_join ts
  kinds := by
    intro p mem
    obtain ⟨t, given, rfl⟩ := List.mem_map.mp mem
    cases t with
    | mark m => exact .inl ⟨m, rfl⟩
    | word w => exact .inr (isRun_word (canonical.words w given))
  runs := by
    rw [List.isChain_map]
    apply canonical.apart.imp
    rintro (m | v) (m' | w) apart ⟨left, right⟩
    · exact not_isRun_mark m left
    · exact not_isRun_mark m left
    · exact not_isRun_mark m' right
    · exact apart.1 v w rfl rfl
  less := by
    rw [List.isChain_map]
    refine canonical.apart.imp_of_mem_imp fun a b given _ apart same => ?_
    obtain rfl : a = .mark .less := eq_mark (fun w eq => canonical.words w (eq ▸ given)) same
    exact ⟨apart.2 '=' (by decide), apart.2 '>' (by decide)⟩
  greater := by
    rw [List.isChain_map]
    refine canonical.apart.imp_of_mem_imp fun a b given _ apart same => ?_
    obtain rfl : a = .mark .greater := eq_mark (fun w eq => canonical.words w (eq ▸ given)) same
    exact apart.2 '=' (by decide)

theorem exists_tokens {pieces : List String} (kinds : ∀ p ∈ pieces, IsSeparator p ∨ IsRun p) :
    ∃ ts : List Token, ts.map text = pieces ∧ ∀ w, .word w ∈ ts → IsRun w := by
  induction pieces with
  | nil => exact ⟨[], rfl, nofun⟩
  | cons p pieces ih =>
      obtain ⟨first, others⟩ := List.forall_mem_cons.mp kinds
      obtain ⟨ts, rfl, runs⟩ := ih others
      obtain ⟨m, rfl⟩ | run := first
      · exact ⟨.mark m :: ts, rfl, fun w mem => runs w (by simpa using mem)⟩
      · refine ⟨.word p :: ts, rfl, fun w mem => ?_⟩
        obtain same | mem := List.mem_cons.mp mem
        · cases same
          exact run
        · exact runs w mem

theorem isWord_of_cut (tidy : Tidy (chars ts)) (cut : Cut (chars ts) (ts.map text))
    (runs : ∀ w, .word w ∈ ts → IsRun w) : ∀ w, .word w ∈ ts → IsWord w := by
  intro w mem
  have nonempty : w ≠ "" := cut.nonempty w (List.mem_map.mpr ⟨.word w, mem, rfl⟩)
  refine ⟨by simpa using nonempty, fun c inside => ⟨?_, ofChar?_eq_none.mpr (runs w mem c inside)⟩⟩
  rw [← Bool.not_eq_true]
  intro blank
  -- The only blanks are spaces, and a space is a separator.
  have there : c ∈ chars ts := List.mem_flatMap.mpr ⟨.word w, mem, inside⟩
  obtain rfl := tidy.1 c there blank
  exact runs w mem ' ' inside .space (by decide)

theorem apart_of_pieces {t u : Token} {cs : List Char}
    (tidy : Tidy (t.text.toList ++ (u.text.toList ++ cs)))
    (words : ∀ v w, t = .word v → u ≠ .word w)
    (less : t.text = "<" → u.text.toList.head? ≠ some '=' ∧ u.text.toList.head? ≠ some '>')
    (greater : t.text = ">" → u.text.toList.head? ≠ some '=') : Apart t u := by
  refine ⟨words, ?_⟩
  cases t with
  | word v => simp [barred]
  | mark m =>
      cases m
      case less => simpa [barred, joining] using less rfl
      case greater => simpa [barred, joining] using greater rfl
      case space =>
        intro c mem head
        obtain rfl : c = ' ' := by simpa [barred] using mem
        obtain ⟨ds, spaces⟩ := List.head?_eq_some_iff.mp head
        rw [spaces] at tidy
        exact (List.isChain_cons_cons.mp tidy.2).1 ⟨rfl, rfl⟩
      all_goals simp [barred, joining]

theorem apart_of_cut (tidy : Tidy (chars ts)) (runs : ∀ w, .word w ∈ ts → IsRun w)
    (cut : Cut (chars ts) (ts.map text)) : ts.IsChain Apart := by
  obtain ⟨-, -, -, kept, less, greater⟩ := cut
  rw [List.isChain_map] at kept less greater
  induction ts with
  | nil => exact .nil
  | cons t ts ih =>
      cases ts with
      | nil => exact .singleton t
      | cons u us =>
          rw [List.isChain_cons_cons] at kept less greater ⊢
          refine ⟨apart_of_pieces tidy ?_ less.1 greater.1,
            ih tidy.behind (fun w mem => runs w (List.mem_cons_of_mem _ mem)) kept.2 less.2 greater.2⟩
          rintro v w rfl rfl
          exact kept.1 ⟨runs v (by simp), runs w (by simp)⟩

end Cut

/-- Tokens are the only pieces that the text of an expression can be cut into, and they are found
again in what they join to. -/
theorem tokens_unique (e : String) :
    normalized e = Text.spaced e.toList ∧
    (∀ pieces, Cut (normalized e) pieces ↔ pieces = (tokens e).map text) ∧
    tokens (String.join ((tokens e).map text)) = tokens e := by
  have canonical := canonical_tokens e
  have joined : chars (tokens e) = normalized e := chars_split [] (normalized e)
  refine ⟨Text.squeeze_trim e.toList, fun pieces => ⟨fun cut => ?_, ?_⟩, tokens_joined canonical⟩
  · obtain ⟨ts, rfl, runs⟩ := exists_tokens cut.kinds
    have same : chars ts = normalized e := by rw [← chars_eq_join, cut.joined]
    have tidy : Tidy (chars ts) := same ▸ tidy_normalized e
    rw [← same] at cut
    have split := split_chars (isWord_of_cut tidy cut runs)
      (apart_of_cut tidy runs cut)
    rw [tokens, ← same, split]
  · rintro rfl
    exact joined ▸ cut_of_canonical canonical

end Token

end Formulary
