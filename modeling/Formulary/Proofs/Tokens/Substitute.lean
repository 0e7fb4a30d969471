import Formulary.Proofs.Tokens.Pieces

set_option autoImplicit false

namespace Formulary.Token

def quotedAfter : Bool → List Token → Bool
  | quoted, [] => quoted
  | quoted, t :: ts => quotedAfter (if t = .mark .quote then !quoted else quoted) ts

theorem quotedAfter_append (quoted : Bool) (ts us : List Token) :
    quotedAfter quoted (ts ++ us) = quotedAfter (quotedAfter quoted ts) us := by
  induction ts generalizing quoted with
  | nil => rfl
  | cons t ts ih => exact ih _

theorem quotedAfter_unquoted {content : List Token} (unquoted : .mark .quote ∉ content)
    (quoted : Bool) : quotedAfter quoted content = quoted := by
  induction content with
  | nil => rfl
  | cons t content ih =>
      simp only [List.mem_cons, not_or] at unquoted
      rw [quotedAfter, if_neg (Ne.symm unquoted.1), ih unquoted.2]

/-- Every `x` outside string literals gives way to `es` in brackets. -/
def substitute (x : String) (es : List Token) : Bool → List Token → List Token
  | _, [] => []
  | quoted, t :: ts =>
      if t = .mark .quote then t :: substitute x es (!quoted) ts
      else if !quoted && t = .word x then
        .mark .leftBracket :: (es ++ .mark .rightBracket :: substitute x es quoted ts)
      else t :: substitute x es quoted ts

section Substitute

variable (x : String) (es : List Token)

@[simp] theorem substitute_nil (quoted : Bool) : substitute x es quoted [] = [] := rfl

@[simp] theorem substitute_quote (quoted : Bool) (ts : List Token) :
    substitute x es quoted (.mark .quote :: ts) = .mark .quote :: substitute x es (!quoted) ts := by
  simp [substitute]

@[simp] theorem substitute_word (ts : List Token) :
    substitute x es false (.word x :: ts) =
      .mark .leftBracket :: (es ++ .mark .rightBracket :: substitute x es false ts) := by
  simp [substitute]

variable {x}

theorem substitute_cons {t : Token} (unquoted : t ≠ .mark .quote) {quoted : Bool}
    (other : quoted = false → t ≠ .word x) (ts : List Token) :
    substitute x es quoted (t :: ts) = t :: substitute x es quoted ts := by
  rw [substitute, if_neg unquoted, if_neg]
  simpa using other

theorem substitute_unquoted {content : List Token} (unquoted : .mark .quote ∉ content)
    (ts : List Token) :
    substitute x es true (content ++ ts) = content ++ substitute x es true ts := by
  induction content with
  | nil => rfl
  | cons t content ih =>
      simp only [List.mem_cons, not_or] at unquoted
      rw [List.cons_append, substitute_cons es (Ne.symm unquoted.1) (by simp), ih unquoted.2]
      rfl

-- Only `x` itself leaves the front, for a bracket.
theorem head?_substitute {quoted : Bool} {ts : List Token} {t : Token}
    (head : (substitute x es quoted ts).head? = some t) :
    ts.head? = some t ∨ t = .mark .leftBracket := by
  cases ts with
  | nil => cases head
  | cons u us =>
      rw [substitute] at head
      split at head
      · exact .inl head
      · split at head
        · exact .inr (Option.some.inj head).symm
        · exact .inl head

theorem head?_substitute_other {ts : List Token} (other : ts.head? ≠ some (.word x)) :
    (substitute x es false ts).head? = ts.head? := by
  cases ts with
  | nil => rfl
  | cons t ts =>
      have differs : t ≠ .word x := by simpa using other
      rw [substitute]
      split
      · rfl
      · rw [if_neg (by simpa using differs)]
        rfl

theorem substitute_eq_nil {quoted : Bool} {ts : List Token}
    (empty : substitute x es quoted ts = []) : ts = [] := by
  cases ts with
  | nil => rfl
  | cons t ts =>
      rw [substitute] at empty
      split at empty
      · cases empty
      · split at empty <;> cases empty

theorem getLast?_cons_of {t u : Token} {ts : List Token} (final : (t :: ts).getLast? = some u) :
    ts.getLast? = some u ∨ ts = [] ∧ t = u := by
  cases ts with
  | nil => exact .inr ⟨rfl, Option.some.inj final⟩
  | cons v ts => exact .inl (by rwa [List.getLast?_cons_cons] at final)

theorem getLast?_substitute {quoted : Bool} {ts : List Token} {t : Token}
    (final : (substitute x es quoted ts).getLast? = some t) :
    ts.getLast? = some t ∨ t = .mark .rightBracket := by
  induction ts generalizing quoted with
  | nil => cases final
  | cons u ts ih =>
      have behind {quoted : Bool} (final : (substitute x es quoted ts).getLast? = some t) :
          (u :: ts).getLast? = some t ∨ t = .mark .rightBracket :=
        (ih final).imp_left fun final => by rw [List.getLast?_cons, final]; rfl
      have kept {quoted : Bool} (final : (u :: substitute x es quoted ts).getLast? = some t) :
          (u :: ts).getLast? = some t ∨ t = .mark .rightBracket := by
        obtain final | ⟨empty, rfl⟩ := getLast?_cons_of final
        · exact behind final
        · exact .inl (by rw [substitute_eq_nil es empty]; rfl)
      rw [substitute] at final
      split at final
      · exact kept final
      · split at final
        · rw [← List.cons_append, List.getLast?_append_of_ne_nil _ (by simp)] at final
          obtain final | ⟨-, rfl⟩ := getLast?_cons_of final
          · exact behind final
          · exact .inr rfl
        · exact kept final

theorem chain_substitute {ts : List Token} (inside : es.IsChain Apart) (apart : ts.IsChain Apart)
    (quoted : Bool) : (substitute x es quoted ts).IsChain Apart := by
  induction ts generalizing quoted with
  | nil => simp
  | cons t ts ih =>
      have kept (quoted : Bool) : (t :: substitute x es quoted ts).IsChain Apart := by
        refine List.isChain_cons.mpr ⟨fun u head => ?_, ih apart.tail quoted⟩
        obtain head | rfl := head?_substitute es head
        · exact (List.isChain_cons.mp apart).1 u head
        · exact Solid.apart (.inr (.inl rfl)) t
      rw [substitute]
      split
      · exact kept _
      · split
        · have right : Solid .rightBracket := .inr (.inr rfl)
          have left : Solid .leftBracket := .inr (.inl rfl)
          refine List.isChain_cons.mpr ⟨fun u _ => left.leads u, ?_⟩
          refine List.isChain_append.mpr ⟨inside, ?_, fun u _ w head => ?_⟩
          · exact List.isChain_cons.mpr ⟨fun u _ => right.leads u, ih apart.tail quoted⟩
          · obtain rfl : w = .mark .rightBracket := by simpa using head.symm
            exact right.apart u
        · exact kept _

theorem word_substitute {quoted : Bool} {ts : List Token} {w : String}
    (mem : .word w ∈ substitute x es quoted ts) : .word w ∈ es ∨ .word w ∈ ts := by
  induction ts generalizing quoted with
  | nil => cases mem
  | cons t ts ih =>
      rw [substitute] at mem
      split at mem
      · obtain rfl | mem := List.mem_cons.mp mem
        · exact .inr (List.mem_cons_self ..)
        · exact (ih mem).imp_right (List.mem_cons_of_mem _)
      · split at mem
        · simp only [List.mem_cons, List.mem_append, reduceCtorEq, false_or] at mem
          obtain mem | mem := mem
          · exact .inl mem
          · exact (ih mem).imp_right (List.mem_cons_of_mem _)
        · obtain rfl | mem := List.mem_cons.mp mem
          · exact .inr (List.mem_cons_self ..)
          · exact (ih mem).imp_right (List.mem_cons_of_mem _)

theorem canonical_substitute {ts : List Token} (inside : Canonical es) (canonical : Canonical ts) :
    Canonical (substitute x es false ts) where
  words w mem := (word_substitute es mem).elim (inside.words w) (canonical.words w)
  apart := chain_substitute es inside.apart canonical.apart false
  start head := (head?_substitute es head).elim canonical.start (by simp)
  stop final := (getLast?_substitute es final).elim canonical.stop (by simp)

end Substitute

/-- Outside string literals `x` stands neither before an opening bracket nor behind a name. -/
def Lone (x : String) (ts : List Token) : Prop :=
  ∀ before behind, ts = before ++ .word x :: behind → quotedAfter false before = false →
    behind.head? ≠ some (.mark .leftBracket) ∧
      ∀ y, before.getLast? = some (.word y) → isName y = false

section Lone

variable {x : String} {ts : List Token}

theorem Lone.tail {t : Token} (lone : Lone x (t :: ts)) (unquoted : t ≠ .mark .quote) :
    Lone x ts := by
  rintro before behind rfl outside
  obtain ⟨unopened, unnamed⟩ := lone (t :: before) behind rfl (by
    rw [quotedAfter, if_neg unquoted]
    exact outside)
  refine ⟨unopened, fun y last => unnamed y ?_⟩
  rw [List.getLast?_cons, last]
  rfl

theorem Lone.behind_quotation {content : List Token} (unquoted : .mark .quote ∉ content)
    (lone : Lone x (.mark .quote :: (content ++ .mark .quote :: ts))) : Lone x ts := by
  rintro before behind rfl outside
  have whole : quotedAfter false (.mark .quote :: (content ++ .mark .quote :: before)) = false := by
    rw [quotedAfter, if_pos rfl, quotedAfter_append, quotedAfter_unquoted unquoted, quotedAfter,
      if_pos rfl]
    exact outside
  obtain ⟨unopened, unnamed⟩ :=
    lone (.mark .quote :: (content ++ .mark .quote :: before)) behind (by simp) whole
  refine ⟨unopened, fun y last => unnamed y ?_⟩
  rw [← List.cons_append, List.getLast?_append_of_ne_nil _ (by simp), List.getLast?_cons, last]
  rfl

theorem Lone.unopened (lone : Lone x (.word x :: ts)) : ts.head? ≠ some (.mark .leftBracket) :=
  (lone [] ts rfl rfl).1

theorem Lone.behind_name {y : String} (lone : Lone x (.word y :: ts)) (named : isName y = true) :
    ts.head? ≠ some (.word x) := by
  intro head
  obtain ⟨us, rfl⟩ := List.head?_eq_some_iff.mp head
  obtain ⟨-, unnamed⟩ := lone [.word y] us rfl (by simp [quotedAfter])
  rw [unnamed y rfl] at named
  cases named

end Lone

theorem bare_append (quoted : Bool) (ts us : List Token) :
    bare quoted (ts ++ us) = bare quoted ts ++ bare (quotedAfter quoted ts) us := by
  induction ts generalizing quoted with
  | nil => rfl
  | cons t ts ih =>
      by_cases quote : t = .mark .quote
      · simp [quote, quotedAfter, ih]
      · simp only [List.cons_append, bare, quotedAfter, if_neg quote, ih]
        split <;> rfl

theorem quotedAfter_bare (quoted : Bool) (ts : List Token) :
    quotedAfter quoted (bare quoted ts) = quotedAfter quoted ts := by
  induction ts generalizing quoted with
  | nil => rfl
  | cons t ts ih =>
      by_cases quote : t = .mark .quote
      · simp [quote, quotedAfter, ih]
      · rw [bare, if_neg quote]
        split
        · rw [quotedAfter, if_neg quote, ih]
        · rw [quotedAfter, quotedAfter, if_neg quote, ih]

theorem bare_substitute {x : String} {es : List Token} (closed : quotedAfter false es = false)
    (quoted : Bool) (ts : List Token) :
    bare quoted (substitute x es quoted ts) =
      substitute x (bare false es) quoted (bare quoted ts) := by
  induction ts generalizing quoted with
  | nil => rfl
  | cons t ts ih =>
      by_cases quote : t = .mark .quote
      · simp [quote, ih]
      cases quoted with
      | true =>
          rw [substitute_cons es quote (by simp), bare_inside quote, bare_inside quote,
            substitute_cons _ quote (by simp), ih]
      | false =>
          by_cases space : t = .mark .space
          · rw [space, substitute_cons es (by simp) (by simp), bare_space, bare_space, ih]
          by_cases same : t = .word x
          · rw [same, substitute_word, bare_cons (by simp) (by simp), bare_cons (by simp) (by simp),
              substitute_word, bare_append, closed, bare_cons (by simp) (by simp), ih]
          · rw [substitute_cons es quote fun _ => same, bare_cons quote space,
              bare_cons quote space, substitute_cons _ quote fun _ => same, ih]

end Formulary.Token
