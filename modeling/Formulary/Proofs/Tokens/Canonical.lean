import Mathlib.Data.List.Chain
import Formulary.Token

set_option autoImplicit false

namespace Formulary.Token

open Text

def chars (ts : List Token) : List Char := ts.flatMap (·.text.toList)

@[simp] theorem chars_nil : chars [] = [] := rfl

@[simp] theorem chars_cons (t : Token) (ts : List Token) :
    chars (t :: ts) = t.text.toList ++ chars ts := rfl

@[simp] theorem chars_append (ts us : List Token) : chars (ts ++ us) = chars ts ++ chars us :=
  List.flatMap_append

def IsWord (w : String) : Prop :=
  w.toList ≠ [] ∧ ∀ c ∈ w.toList, isBlank c = false ∧ Separator.ofChar? c = none

instance (w : String) : Decidable (IsWord w) :=
  decidable_of_iff (w.toList ≠ [] ∧ w.toList.all fun c => !isBlank c && (Separator.ofChar? c).isNone)
    (by simp [IsWord])

def joining : Separator → List Char
  | .less => ['=', '>']
  | .greater => ['=']
  | _ => []

def barred : Token → List Char
  | .mark .space => [' ']
  | .mark m => joining m
  | .word _ => []

theorem barred_of_joining {m : Separator} {c : Char} (mem : c ∈ joining m) :
    c ∈ barred (.mark m) := by
  cases m <;> first | exact mem | cases mem

def Apart (a b : Token) : Prop :=
  (∀ v w, a = .word v → b ≠ .word w) ∧ ∀ c ∈ barred a, b.text.toList.head? ≠ some c

/-- What the tokens of an expression always are: words apart from each other, and no space at the
ends. -/
structure Canonical (ts : List Token) : Prop where
  words : ∀ w, .word w ∈ ts → IsWord w
  apart : ts.IsChain Apart
  start : ts.head? ≠ some (.mark .space)
  stop : ts.getLast? ≠ some (.mark .space)

section Split

theorem text_of_ofChar? {c : Char} {m : Separator} (known : Separator.ofChar? c = some m) :
    m.text.toList = [c] := by
  unfold Separator.ofChar? at known
  split at known <;> first | (cases known; rfl) | cases known

theorem split_plain {c : Char} (plain : Separator.ofChar? c = none) (read cs : List Char) :
    split read (c :: cs) = split (c :: read) cs := by
  rw [split]
  · rw [plain]
  · rintro _ rfl _
    cases plain
  · rintro _ rfl _
    cases plain
  · rintro _ rfl _
    cases plain

theorem split_word {w : List Char} (plain : ∀ c ∈ w, Separator.ofChar? c = none)
    (read cs : List Char) : split read (w ++ cs) = split (w.reverse ++ read) cs := by
  induction w generalizing read with
  | nil => rfl
  | cons c w ih =>
      simp only [List.mem_cons, forall_eq_or_imp] at plain
      rw [List.cons_append, split_plain plain.1, ih plain.2, List.reverse_cons, List.append_assoc]
      rfl

theorem split_mark (m : Separator) (read : List Char) {cs : List Char}
    (free : ∀ c ∈ joining m, cs.head? ≠ some c) :
    split read (m.text.toList ++ cs) = ofReversed read ++ .mark m :: split [] cs := by
  cases m
  case less =>
    cases cs with
    | nil => rfl
    | cons c cs =>
        have differs : c ≠ '=' ∧ c ≠ '>' := by simpa [joining] using free
        change split read ('<' :: c :: cs) = _
        rw [split] <;> simp_all [Separator.ofChar?]
  case greater =>
    cases cs with
    | nil => rfl
    | cons c cs =>
        have differs : c ≠ '=' := by simpa [joining] using free
        change split read ('>' :: c :: cs) = _
        rw [split] <;> simp_all [Separator.ofChar?]
  all_goals rfl

theorem split_induction {motive : List Char → List Char → Prop} (done : ∀ read, motive read [])
    (mark : ∀ read m cs, (∀ c ∈ joining m, cs.head? ≠ some c) → motive [] cs →
      motive read (m.text.toList ++ cs))
    (plain : ∀ read c cs, Separator.ofChar? c = none → motive (c :: read) cs →
      motive read (c :: cs)) :
    ∀ read cs, motive read cs := by
  intro read cs
  fun_induction split read cs with
  | case1 read => exact done read
  | case2 read cs ih => exact mark read .lessEqual cs (by simp [joining]) ih
  | case3 read cs ih => exact mark read .notEqual cs (by simp [joining]) ih
  | case4 read cs ih => exact mark read .greaterEqual cs (by simp [joining]) ih
  | case5 read c cs lessEqual notEqual greaterEqual m known ih =>
      have text : c :: cs = m.text.toList ++ cs := by rw [text_of_ofChar? known]; rfl
      rw [text]
      apply mark read m cs _ ih
      intro d mem head
      obtain ⟨cs, rfl⟩ := List.head?_eq_some_iff.mp head
      cases m <;> simp [joining] at mem
      case less =>
        obtain rfl : c = '<' := (List.cons.inj text).1
        obtain rfl | rfl := mem
        · exact lessEqual cs rfl rfl
        · exact notEqual cs rfl rfl
      case greater =>
        obtain rfl : c = '>' := (List.cons.inj text).1
        subst mem
        exact greaterEqual cs rfl rfl
  | case6 read c cs _ _ _ unknown ih => exact plain read c cs unknown ih

theorem ofReversed_reverse {w : String} (word : w.toList ≠ []) :
    ofReversed w.toList.reverse = [.word w] := by
  rw [ofReversed]
  · rw [List.reverse_reverse, String.ofList_toList]
  · simpa using word

theorem text_ne_nil {t : Token} (words : ∀ w, .word w = t → IsWord w) : t.text.toList ≠ [] := by
  cases t with
  | mark m => cases m <;> decide
  | word w => exact (words w rfl).1

theorem head_chars {ts : List Token} (words : ∀ w, .word w ∈ ts → IsWord w) :
    (chars ts).head? = ts.head?.bind fun t => t.text.toList.head? := by
  cases ts with
  | nil => rfl
  | cons t ts =>
      obtain ⟨c, cs, text⟩ := List.exists_cons_of_ne_nil
        (text_ne_nil (t := t) fun w same => words w (by simp [same]))
      simp [text]

theorem free_of_apart {t : Token} {ts : List Token} (words : ∀ w, .word w ∈ ts → IsWord w)
    (apart : (t :: ts).IsChain Apart) : ∀ c ∈ barred t, (chars ts).head? ≠ some c := by
  intro c barred head
  rw [head_chars words] at head
  cases ts with
  | nil => cases head
  | cons u us => exact (List.isChain_cons_cons.mp apart).1.2 c barred head

theorem split_chars {ts : List Token} (words : ∀ w, .word w ∈ ts → IsWord w)
    (apart : ts.IsChain Apart) : split [] (chars ts) = ts := by
  induction ts with
  | nil => rfl
  | cons t ts ih =>
      have others : ∀ w, .word w ∈ ts → IsWord w := fun w mem => words w (List.mem_cons_of_mem _ mem)
      have same := ih others apart.tail
      have free := free_of_apart others apart
      cases t with
      | mark m =>
          rw [chars_cons, text, split_mark m [] fun c mem => free c (barred_of_joining mem), same]
          rfl
      | word w =>
          obtain ⟨nonempty, plain⟩ := words w (List.mem_cons_self ..)
          rw [chars_cons, text, split_word (fun c mem => (plain c mem).2), List.append_nil]
          cases ts with
          | nil => exact ofReversed_reverse nonempty
          | cons u us =>
              cases u with
              | word v => exact absurd rfl ((List.isChain_cons_cons.mp apart).1.1 w v rfl)
              | mark m =>
                  have free' : ∀ c ∈ joining m, (chars us).head? ≠ some c := fun c mem =>
                    free_of_apart (fun w mem => others w (List.mem_cons_of_mem _ mem)) apart.tail c
                      (barred_of_joining mem)
                  rw [chars_cons, text, split_mark m [] free'] at same
                  rw [chars_cons, text, split_mark m _ free', ofReversed_reverse nonempty, ← same]
                  rfl

end Split

section Normal

theorem plain_mark {m : Separator} (visible : m ≠ .space) :
    ∀ c ∈ m.text.toList, isBlank c = false := by
  have checked : m.text.toList.all (!isBlank ·) = true := by
    cases m <;> first | exact absurd rfl visible | rfl
  simpa using checked

theorem plain_text {t : Token} (words : ∀ w, .word w = t → IsWord w) (visible : t ≠ .mark .space) :
    ∀ c ∈ t.text.toList, isBlank c = false := by
  cases t with
  | mark m => exact plain_mark (by simpa using visible)
  | word w => exact fun c mem => ((words w rfl).2 c mem).1

theorem squeezeFrom_plain {w : List Char} (nonempty : w ≠ []) (plain : ∀ c ∈ w, isBlank c = false)
    (inRun : Bool) (cs : List Char) : squeezeFrom inRun (w ++ cs) = w ++ squeezeFrom false cs := by
  induction w generalizing inRun with
  | nil => exact absurd rfl nonempty
  | cons c w ih =>
      simp only [List.mem_cons, forall_eq_or_imp] at plain
      rw [List.cons_append, squeezeFrom, if_neg (by simp [plain.1])]
      cases w with
      | nil => rfl
      | cons d w => rw [ih (by simp) plain.2]; rfl

theorem squeezeFrom_chars {ts : List Token} (words : ∀ w, .word w ∈ ts → IsWord w)
    (apart : ts.IsChain Apart) (inRun : Bool)
    (visible : inRun = true → ts.head? ≠ some (.mark .space)) :
    squeezeFrom inRun (chars ts) = chars ts := by
  induction ts generalizing inRun with
  | nil => rfl
  | cons t ts ih =>
      have others : ∀ w, .word w ∈ ts → IsWord w := fun w mem => words w (List.mem_cons_of_mem _ mem)
      have word : ∀ w, .word w = t → IsWord w := fun w same => words w (by simp [same])
      by_cases space : t = .mark .space
      · subst space
        have fresh : inRun = false := by simpa using visible
        have next : ts.head? ≠ some (.mark .space) := by
          intro head
          apply free_of_apart others apart ' ' (by simp [barred])
          rw [head_chars others, head]
          rfl
        have behind := ih others apart.tail true fun _ => next
        rw [chars_cons, fresh]
        change ' ' :: squeezeFrom true (chars ts) = ' ' :: chars ts
        rw [behind]
      · rw [chars_cons, squeezeFrom_plain (text_ne_nil word) (plain_text word space),
          ih others apart.tail false (by simp)]

theorem trimStart_of_head {cs : List Char} (first : ∀ c, cs.head? = some c → isBlank c = false) :
    trimStart cs = cs := by
  cases cs with
  | nil => rfl
  | cons c cs => simp [trimStart, first c rfl]

theorem trim_of_ends {cs : List Char} (first : ∀ c, cs.head? = some c → isBlank c = false)
    (last : ∀ c, cs.getLast? = some c → isBlank c = false) : trim cs = cs := by
  rw [trim, trimStart_of_head first, trimStart_of_head (by simpa using last), List.reverse_reverse]

theorem getLast?_chars {ts : List Token} (words : ∀ w, .word w ∈ ts → IsWord w) :
    (chars ts).getLast? = ts.getLast?.bind fun t => t.text.toList.getLast? := by
  obtain rfl | ⟨us, t, rfl⟩ := List.eq_nil_or_concat ts
  · rfl
  · have nonempty := text_ne_nil (t := t) fun w same => words w (by simp [same])
    obtain ⟨cs, c, text⟩ := List.eq_nil_or_concat t.text.toList |>.resolve_left nonempty
    simp [text]

theorem tokens_of_chars {ts : List Token} (canonical : Canonical ts) {e : String}
    (written : e.toList = chars ts) : tokens e = ts := by
  have first : ∀ c, (chars ts).head? = some c → isBlank c = false := by
    intro c head
    rw [head_chars canonical.words, Option.bind_eq_some_iff] at head
    obtain ⟨t, head, text⟩ := head
    exact plain_text (fun w same => canonical.words w (by rw [same]; exact List.mem_of_head? head))
      (fun space => canonical.start (space ▸ head)) c (List.mem_of_head? text)
  have last : ∀ c, (chars ts).getLast? = some c → isBlank c = false := by
    intro c final
    rw [getLast?_chars canonical.words, Option.bind_eq_some_iff] at final
    obtain ⟨t, final, text⟩ := final
    exact plain_text (fun w same => canonical.words w (by rw [same]; exact List.mem_of_getLast? final))
      (fun space => canonical.stop (space ▸ final)) c (List.mem_of_getLast? text)
  rw [tokens, normalized, written, trim_of_ends first last, squeeze,
    squeezeFrom_chars canonical.words canonical.apart false (by simp),
    split_chars canonical.words canonical.apart]

theorem tokens_joined {ts : List Token} (canonical : Canonical ts) :
    tokens (String.join (ts.map text)) = ts :=
  tokens_of_chars canonical (by simp [chars, List.flatMap_map])

end Normal

end Formulary.Token
