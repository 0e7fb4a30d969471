import Formulary.Proofs.Reading.Depth

set_option autoImplicit false

namespace Formulary

namespace Token

/-- The tokens without the spaces outside string literals. Quotes pair up from left to right;
`quoted` says that one is open. -/
def bare : Bool → List Token → List Token
  | _, [] => []
  | quoted, t :: ts =>
      if t = .mark .quote then t :: bare (!quoted) ts
      else if !quoted && t = .mark .space then bare quoted ts
      else t :: bare quoted ts

@[simp] theorem bare_nil (quoted : Bool) : bare quoted [] = [] := rfl

@[simp] theorem bare_quote (quoted : Bool) (ts : List Token) :
    bare quoted (.mark .quote :: ts) = .mark .quote :: bare (!quoted) ts := rfl

@[simp] theorem bare_space (ts : List Token) :
    bare false (.mark .space :: ts) = bare false ts := rfl

theorem bare_cons {t : Token} (unquoted : t ≠ .mark .quote) (visible : t ≠ .mark .space)
    (ts : List Token) : bare false (t :: ts) = t :: bare false ts := by
  simp [bare, unquoted, visible]

theorem bare_inside {t : Token} (unquoted : t ≠ .mark .quote) (ts : List Token) :
    bare true (t :: ts) = t :: bare true ts := by
  simp [bare, unquoted]

theorem bare_unquoted {content : List Token} (unquoted : .mark .quote ∉ content)
    (ts : List Token) : bare true (content ++ ts) = content ++ bare true ts := by
  induction content with
  | nil => rfl
  | cons t content ih =>
      simp only [List.mem_cons, not_or] at unquoted
      simp [bare_inside (Ne.symm unquoted.1), ih unquoted.2]

theorem bare_bare (quoted : Bool) (ts : List Token) :
    bare quoted (bare quoted ts) = bare quoted ts := by
  induction ts generalizing quoted with
  | nil => rfl
  | cons t ts ih =>
      by_cases quote : t = .mark .quote
      · simp [quote, ih]
      · cases quoted with
        | true => rw [bare_inside quote, bare_inside quote, ih]
        | false =>
            by_cases space : t = .mark .space
            · simp [space, ih]
            · rw [bare_cons quote space, bare_cons quote space, ih]

def Settled (ts : List Token) : Prop := ts.head? ≠ some (.mark .space)

end Token

namespace Rule

open Token

theorem settled_skipSpaces (ts : List Token) : Settled (skipSpaces ts) := by
  induction ts with
  | nil => simp [skipSpaces, Settled]
  | cons t ts ih =>
      by_cases space : t = .mark .space
      · simpa [skipSpaces, space] using ih
      · simp [skipSpaces, Settled, space]

theorem skipSpaces_invariant {α : Type} {p : List Token → α}
    (blind : ∀ ts, p (.mark .space :: ts) = p ts) (ts : List Token) : p (skipSpaces ts) = p ts := by
  induction ts with
  | nil => rfl
  | cons t ts ih =>
      by_cases space : t = .mark .space
      · subst space
        exact ih.trans (blind ts).symm
      · simp [skipSpaces, space]

theorem skipSpaces_settled {ts : List Token} (settled : Settled ts) : skipSpaces ts = ts := by
  cases ts with
  | nil => rfl
  | cons t ts =>
      have visible : t ≠ .mark .space := by simpa [Settled] using settled
      simp [skipSpaces, visible]

theorem settled_bare (ts : List Token) : Settled (bare false ts) := by
  induction ts with
  | nil => simp [Settled]
  | cons t ts ih =>
      by_cases quote : t = .mark .quote
      · simp [Settled, quote]
      · by_cases space : t = .mark .space
        · simpa [space] using ih
        · simp [Settled, bare_cons quote space, space]

@[simp] theorem skipSpaces_bare (ts : List Token) :
    skipSpaces (bare false ts) = bare false ts := skipSpaces_settled (settled_bare ts)

@[simp] theorem bare_skipSpaces (ts : List Token) :
    bare false (skipSpaces ts) = bare false ts := skipSpaces_invariant bare_space ts

theorem head_bare {ts : List Token} (settled : Settled ts) :
    (bare false ts).head? = ts.head? := by
  cases ts with
  | nil => rfl
  | cons t ts =>
      have visible : t ≠ .mark .space := by simpa [Settled] using settled
      by_cases quote : t = .mark .quote
      · simp [quote]
      · simp [bare_cons quote visible]

end Rule

namespace Pairing

open Tape Token Rule

variable {σ τ : Type} [Tape σ] [Tape τ]

def stripped (link : σ → τ → Prop) : Pairing σ τ where
  tapes s t := Settled (rest s) ∧ rest t = bare false (rest s) ∧ link s t
  faults f g := f = g

variable {link : σ → τ → Prop} (linked : Linked link)

include linked in
theorem stripped_advance {s : σ} {t : τ} (paired : (stripped link).tapes s t) {token : Token}
    (head : (rest s).head? = some token) (unquoted : token ≠ .mark .quote) :
    (stripped link).tapes (advanced s) (advanced t) := by
  obtain ⟨settled, same, beside⟩ := paired
  obtain ⟨ts, here⟩ := List.head?_eq_some_iff.mp head
  have visible : token ≠ .mark .space := by simpa [Settled, here] using settled
  refine ⟨?_, ?_, linked.move beside _⟩
  · rw [rest_advanced]
    exact settled_skipSpaces _
  · rw [rest_advanced, rest_advanced, same, here, bare_cons unquoted visible]
    simp

include linked in
theorem steady_stripped : (stripped link).Steady where
  faults_refl _ := rfl
  empty := by
    rintro s t ⟨-, same, -⟩ empty
    rw [same, empty, bare_nil]
  head := by
    rintro s t ⟨settled, same, -⟩ m -
    rw [same, head_bare settled]
  unexpected := by
    rintro s t ⟨settled, same, -⟩ m
    rw [same, head_bare settled]
    rfl
  advance paired _ _ quote head := stripped_advance linked paired head (by simpa using quote)
  opening paired head _ := stripped_advance linked paired head (by decide)
  cut := by
    rintro s t ⟨settled, same, beside⟩
    exact ⟨by rwa [rest_cut], by rwa [rest_cut, rest_cut], linked.cut beside⟩

include linked in
theorem agree_quotation_stripped {s : σ} {t : τ} (paired : (stripped link).tapes s t)
    (head : (rest s).head? = some (.mark .quote)) :
    (stripped link).Agree ((quotation : Cursor σ Value).run s) (quotation.run t) := by
  obtain ⟨-, same, beside⟩ := paired
  obtain ⟨ts, here⟩ := List.head?_eq_some_iff.mp head
  have beside' : link (closing s) (closing t) := linked.move (linked.move beside _) _
  rw [here, bare_quote, Bool.not_false] at same
  by_cases closed : .mark .quote ∈ ts
  · obtain ⟨content, us, rfl, unquoted⟩ := List.eq_append_cons_of_mem closed
    rw [bare_unquoted unquoted, bare_quote, Bool.not_true] at same
    obtain ⟨run, behind⟩ := run_quotation_closed unquoted here
    obtain ⟨run', behind'⟩ := run_quotation_closed unquoted same
    rw [run, run']
    refine ⟨rfl, ?_, ?_, linked.move beside' _⟩
    · rw [behind]
      exact settled_skipSpaces us
    · rw [behind, behind']
      simp
  · have whole := bare_unquoted closed []
    rw [bare_nil, List.append_nil] at whole
    rw [whole] at same
    obtain ⟨run, behind⟩ := run_quotation_open closed here
    obtain ⟨run', behind'⟩ := run_quotation_open closed same
    rw [run, run']
    exact ⟨rfl, by simp [behind, Settled], by simp [behind, behind'], beside'⟩

include linked in
theorem lockstep_stripped (setting : Setting) :
    (stripped link).Lockstep (whole setting) (whole setting) := by
  apply lockstep_whole (steady_stripped linked)
  intro n h s t paired
  have shrinks : Shrinks (whole setting : Cursor σ Value) := shrinks_whole setting
  have shrinks' : Shrinks (whole setting : Cursor τ Value) := shrinks_whole setting
  have heads : (rest s).head? = (rest t).head? := by
    obtain ⟨⟨settled, same, -⟩, -⟩ := paired
    rw [same, head_bare settled]
  apply agree_atom (steady_stripped linked) shrinks shrinks' rfl h paired heads
  · intro token head unquoted
    exact stripped_advance linked paired.1 head unquoted
  · exact agree_quotation_stripped linked paired.1
  · intro w head _
    obtain ⟨settled, same, -⟩ := stripped_advance linked paired.1 head (by simp)
    exact ⟨by rw [same, head_bare settled], fun _ => rfl⟩

theorem lockstep_bare (setting : Setting) {ts : List Token} (settled : Settled ts) :
    (stripped fun _ _ => True).Agree ((whole setting).run ts)
      ((whole setting).run (bare false ts)) :=
  lockstep_stripped linked_true setting ts (bare false ts) ⟨settled, rfl, trivial⟩

end Pairing

end Formulary
