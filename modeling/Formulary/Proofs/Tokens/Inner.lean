import Formulary.Proofs.Tokens.Cut
import Mathlib.Data.List.TakeWhile

set_option autoImplicit false

namespace Formulary

namespace Text

theorem squeezeFrom_append {c : Char} (visible : isBlank c = false) (inRun : Bool)
    (xs ys : List Char) :
    squeezeFrom inRun (xs ++ c :: ys) = squeezeFrom inRun xs ++ c :: squeezeFrom false ys := by
  induction xs generalizing inRun with
  | nil => simp [squeezeFrom, visible]
  | cons d xs ih =>
      simp only [List.cons_append, squeezeFrom, ih]
      split
      · split <;> rfl
      · rfl

theorem squeezeFrom_blank {bs : List Char} (blank : ∀ c ∈ bs, isBlank c = true) (inRun : Bool) :
    ∀ c ∈ squeezeFrom inRun bs, c = ' ' := by
  induction bs generalizing inRun with
  | nil => nofun
  | cons b bs ih =>
      have others := ih fun c mem => blank c (List.mem_cons_of_mem _ mem)
      rw [squeezeFrom, if_pos (blank b (List.mem_cons_self ..))]
      cases inRun with
      | true => exact others true
      | false => simpa using others true

theorem squeeze_front {ds : List Char} (last : ∀ c, ds.getLast? = some c → isBlank c = false) :
    ∃ front : List Char, (∀ c ∈ front, c = ' ') ∧ squeeze ds = front ++ spaced ds := by
  refine ⟨_, fun c mem => ?_, (squeezeFrom_spaced last).2⟩
  split at mem
  · exact List.mem_singleton.mp mem
  · cases mem

theorem squeeze_margins (cs : List Char) :
    ∃ front back : List Char, (∀ c ∈ front, c = ' ') ∧ (∀ c ∈ back, c = ' ') ∧
      squeeze cs = front ++ (squeeze (trim cs) ++ back) := by
  have split : (trimStart cs.reverse).reverse ++ (cs.reverse.takeWhile isBlank).reverse = cs := by
    rw [← List.reverse_append, trimStart, List.takeWhile_append_dropWhile, List.reverse_reverse]
  have blank : ∀ c ∈ (cs.reverse.takeWhile isBlank).reverse, isBlank c = true :=
    fun c mem => List.mem_takeWhile_imp (List.mem_reverse.mp mem)
  have last : ∀ c, (trimStart cs.reverse).reverse.getLast? = some c → isBlank c = false := by
    intro c final
    rw [List.getLast?_reverse] at final
    exact Token.head?_trimStart cs.reverse c final
  have middle : spaced (trimStart cs.reverse).reverse = squeeze (trim cs) := by
    rw [squeeze_trim, spaced, spaced, words_trimEnd]
  rcases squeeze_front last with ⟨front, spaces, squeezed⟩
  rw [middle] at squeezed
  generalize (trimStart cs.reverse).reverse = ds at split last squeezed
  generalize (cs.reverse.takeWhile isBlank).reverse = bs at split blank
  refine ⟨front, squeezeFrom false bs, spaces, squeezeFrom_blank blank false, ?_⟩
  rw [← List.append_assoc, ← squeezed, ← split]
  -- The last visible character keeps the blanks behind it apart from what is in front.
  rcases List.eq_nil_or_concat ds with rfl | ⟨ds, c, rfl⟩
  · rfl
  · have visible : isBlank c = false := last c (by simp)
    rw [squeeze, squeeze, List.concat_eq_append, List.append_assoc, List.singleton_append,
      squeezeFrom_append visible, squeezeFrom_append visible]
    simp [squeezeFrom]

end Text

namespace Token

def Single (m : Separator) : Prop :=
  m ∉ [.lessEqual, .notEqual, .greaterEqual, .less, .greater, .equal]

theorem Single.char {m : Separator} (single : Single m) :
    ∃ c, m.text.toList = [c] ∧ joining m = [] ∧ ∀ m', c ∉ joining m' := by
  cases m
  case lessEqual | notEqual | greaterEqual | less | greater | equal => simp [Single] at single
  all_goals
    refine ⟨_, rfl, rfl, fun m' => ?_⟩
    cases m' <;> decide

theorem split_append {m : Separator} (single : Single m) (read xs ys : List Char) :
    split read (xs ++ (m.text.toList ++ ys)) = split read xs ++ .mark m :: split [] ys := by
  rcases single.char with ⟨c, text, alone, apart⟩
  induction read, xs using split_induction with
  | done read =>
      rw [List.nil_append, split_mark m read (by simp [alone]), split]
  | mark read m' xs free ih =>
      have free' : ∀ d ∈ joining m', (xs ++ (m.text.toList ++ ys)).head? ≠ some d := by
        intro d mem
        cases xs with
        | nil =>
            rw [text]
            rintro ⟨⟩
            exact apart m' mem
        | cons x xs => exact free d mem
      rw [List.append_assoc, split_mark m' read free', split_mark m' read free, ih,
        List.append_assoc, List.cons_append]
  | plain read d xs unknown ih =>
      rw [List.cons_append, split_plain unknown, split_plain unknown, ih]

def inner (s : String) : List Token := split [] (Text.squeeze s.toList)

theorem inner_mark {m : Separator} (single : Single m) (visible : m ≠ .space) (a b : String) :
    inner (a ++ m.text ++ b) = inner a ++ .mark m :: inner b := by
  rcases single.char with ⟨c, text, -⟩
  have plain := plain_mark visible c (by simp [text])
  rw [inner, String.toList_append, String.toList_append, List.append_assoc, text,
    List.singleton_append, Text.squeeze, Text.squeezeFrom_append plain]
  have cut := split_append single [] (Text.squeezeFrom false a.toList)
    (Text.squeezeFrom false b.toList)
  rw [text] at cut
  exact cut

def Gap (ts : List Token) : Prop := ∀ t ∈ ts, t = .mark .space

theorem split_spaces {front : List Char} (spaces : ∀ c ∈ front, c = ' ') (xs : List Char) :
    ∃ gap, Gap gap ∧ split [] (front ++ xs) = gap ++ split [] xs := by
  induction front with
  | nil => exact ⟨[], nofun, rfl⟩
  | cons c front ih =>
      obtain rfl := spaces c (List.mem_cons_self ..)
      rcases ih fun c mem => spaces c (List.mem_cons_of_mem _ mem) with ⟨gap, blank, cut⟩
      refine ⟨.mark .space :: gap, ?_, ?_⟩
      · intro t mem
        rcases List.mem_cons.mp mem with rfl | mem
        · rfl
        · exact blank t mem
      · have first : split [] (' ' :: (front ++ xs)) = .mark .space :: split [] (front ++ xs) :=
          split_mark .space [] (by simp [joining])
        rw [List.cons_append, first, cut, List.cons_append]

theorem inner_eq (e : String) :
    ∃ front back, Gap front ∧ Gap back ∧ inner e = front ++ (tokens e ++ back) := by
  rcases Text.squeeze_margins e.toList with ⟨front, back, spaces, spaces', squeezed⟩
  rw [inner, squeezed]
  rcases split_spaces spaces (Text.squeeze (Text.trim e.toList) ++ back) with ⟨gap, blank, cut⟩
  rw [cut]
  cases back with
  | nil => exact ⟨gap, [], blank, nofun, by simp [tokens, normalized]⟩
  | cons c back =>
      obtain rfl := spaces' c (List.mem_cons_self ..)
      rcases split_spaces (fun c mem => spaces' c (List.mem_cons_of_mem _ mem)) [] with
        ⟨gap', blank', cut'⟩
      have single : Single .space := by simp [Single]
      have behind := split_append single [] (Text.squeeze (Text.trim e.toList)) back
      refine ⟨gap, .mark .space :: split [] back, blank, ?_, ?_⟩
      · rw [List.append_nil] at cut'
        intro t mem
        rcases List.mem_cons.mp mem with rfl | mem
        · rfl
        · rw [cut'] at mem
          exact blank' t (by simpa [split, ofReversed] using mem)
      · exact congrArg (gap ++ ·) behind

theorem tokens_eq_inner {s : String} (start : (inner s).head? ≠ some (.mark .space))
    (stop : (inner s).getLast? ≠ some (.mark .space)) : tokens s = inner s := by
  rcases inner_eq s with ⟨front, back, blank, blank', whole⟩
  rw [whole] at start stop ⊢
  have noFront : front = [] := by
    cases front with
    | nil => rfl
    | cons t front =>
        rw [blank t (List.mem_cons_self ..)] at start
        exact absurd rfl start
  have noBack : back = [] := by
    rcases List.eq_nil_or_concat back with none | ⟨back, t, rfl⟩
    · exact none
    · rw [blank' t (by simp)] at stop
      exact absurd (by simp) stop
  rw [noFront, noBack, List.nil_append, List.append_nil]

end Token

end Formulary
