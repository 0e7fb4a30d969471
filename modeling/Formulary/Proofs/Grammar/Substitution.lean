import Formulary.Proofs.Grammar.Accepted
import Formulary.Proofs.Tokens.Substitute

set_option autoImplicit false

namespace Formulary

open Tape Rule Token

namespace Tree

theorem fitAll_append (ts : List Tree) {next : List Token} (fits : FitAll ts next)
    (more : List Token) (each : ∀ t ∈ ts, ∀ next, t.Fits next →
      t.Fits (next ++ .mark .rightBracket :: more)) :
    FitAll ts (next ++ .mark .rightBracket :: more) := by
  induction ts with
  | nil => trivial
  | cons t ts ih =>
      cases ts with
      | nil => exact each t (List.mem_cons_self ..) next fits
      | cons u us =>
          obtain ⟨fitsFirst, fitsOthers⟩ := fits
          refine ⟨?_, ih fitsOthers fun t mem => each t (List.mem_cons_of_mem _ mem)⟩
          simpa using each t (List.mem_cons_self ..) _ fitsFirst

theorem fits_append {t : Tree} {next : List Token} (fits : t.Fits next) (more : List Token) :
    t.Fits (next ++ .mark .rightBracket :: more) := by
  induction t generalizing next with
  | missing =>
      intro token head
      cases next with
      | nil =>
          cases head
          rfl
      | cons u us => exact fits token head
  | number w => exact fits
  | keyword w => exact fits
  | text content => exact fits
  | name x =>
      refine ⟨fits.1, ?_⟩
      cases next with
      | nil => simp
      | cons u us => exact fits.2
  | sign o t ih => exact ⟨fits.1, ih fits.2⟩
  | bracket t ih => exact ih fits
  | binary op a b iha ihb =>
      obtain ⟨leftTier, rightTier, fitsLeft, fitsRight⟩ := fits
      refine ⟨leftTier, rightTier, ?_, ihb fitsRight⟩
      simpa using iha fitsLeft
  | call f args ih =>
      obtain ⟨known, given, fits⟩ := fits
      exact ⟨known, given, fitAll_append args fits more fun t mem next fits => ih t mem fits⟩

theorem quotedAfter_yield (t : Tree) {next : List Token} (fits : t.Fits next) :
    quotedAfter false t.yield = false := by
  have alone : bare false (t.yield ++ []) = t.yield ++ bare false [] := t.bare_yield fits
  have spaced : bare false (t.yield ++ [.mark .space]) = t.yield ++ bare false [.mark .space] :=
    t.bare_yield fits
  rw [bare_nil, List.append_nil] at alone
  rw [bare_append, alone, bare_space, bare_nil] at spaced
  have none := List.append_cancel_left spaced
  cases after : quotedAfter false t.yield with
  | false => rfl
  | true =>
      rw [after] at none
      cases none

end Tree

section Replaced

variable {scope : Scope} {x : String} {es : List Token} {v : Value}

/-- A tape beside the same tape with `es` in brackets for every `x`. -/
def replaced (x : String) (es : List Token) : Pairing (List Token) (List Token) where
  tapes us vs := Clean us ∧ Lone x us ∧ vs = substitute x es false us
  faults _ _ := True

theorem settled_substitute {us : List Token} (settled : Settled us) :
    Settled (substitute x es false us) :=
  fun head => (head?_substitute es head).elim settled (by simp)

theorem advanced_cons (t : Token) {ts : List Token} (settled : Settled ts) :
    advanced (t :: ts) = ts := rest_behind (s := t :: ts) rfl settled

theorem replaced_advance {us vs : List Token} (paired : (replaced x es).tapes us vs) {t : Token}
    (head : us.head? = some t) (unquoted : t ≠ .mark .quote) (other : t ≠ .word x) :
    (replaced x es).tapes (advanced us) (advanced vs) := by
  obtain ⟨clean, lone, rfl⟩ := paired
  obtain ⟨ts, rfl⟩ := List.head?_eq_some_iff.mp head
  have clean' := clean.tail unquoted
  rw [substitute_cons es unquoted fun _ => other, advanced_cons t clean'.settled,
    advanced_cons t (settled_substitute clean'.settled)]
  exact ⟨clean', lone.tail unquoted, rfl⟩

theorem steady_replaced : (replaced x es).Steady where
  faults_refl _ := trivial
  empty := by
    rintro us _ ⟨-, -, rfl⟩ (rfl : us = [])
    rfl
  head := by
    rintro us _ ⟨-, -, rfl⟩ m other
    by_cases here : us.head? = some (.word x)
    · obtain ⟨ts, rfl⟩ := List.head?_eq_some_iff.mp here
      rw [substitute_word]
      simp [other.symm]
    · rw [rest_list, rest_list, head?_substitute_other es here]
  unexpected _ _ := trivial
  advance paired _ _ quote head := replaced_advance paired head (by simpa using quote) (by simp)
  opening paired head _ := replaced_advance paired head (by decide) (by simp)
  cut paired := paired

theorem agree_quotation_replaced {us vs : List Token} (paired : (replaced x es).tapes us vs)
    (head : us.head? = some (.mark .quote)) :
    (replaced x es).Agree ((quotation : Cursor (List Token) Value).run us)
      ((quotation : Cursor (List Token) Value).run vs) := by
  obtain ⟨clean, lone, rfl⟩ := paired
  obtain ⟨ts, rfl⟩ := List.head?_eq_some_iff.mp head
  rw [substitute_quote, Bool.not_false]
  by_cases closed : .mark .quote ∈ ts
  · obtain ⟨content, us, rfl, unquoted⟩ := List.eq_append_cons_of_mem closed
    rw [substitute_unquoted es unquoted, substitute_quote, Bool.not_true]
    have clean' := clean.behind_quotation unquoted
    obtain ⟨run, behind⟩ := run_quotation_closed unquoted (s := .mark .quote ::
      (content ++ .mark .quote :: us)) rfl
    obtain ⟨run', behind'⟩ := run_quotation_closed unquoted (s := .mark .quote ::
      (content ++ .mark .quote :: substitute x es false us)) rfl
    rw [skipSpaces_settled clean'.settled, rest_list] at behind
    rw [skipSpaces_settled (settled_substitute clean'.settled), rest_list] at behind'
    rw [run, run', behind, behind']
    exact ⟨rfl, clean', lone.behind_quotation unquoted, rfl⟩
  · have same := substitute_unquoted (x := x) es closed []
    rw [substitute_nil, List.append_nil] at same
    obtain ⟨run, behind⟩ := run_quotation_open closed (s := .mark .quote :: ts) rfl
    rw [rest_list] at behind
    rw [same, run, behind]
    exact ⟨trivial, rfl, by simp [Lone], rfl⟩

theorem run_inserted {t : Tree} (fits : t.Fits []) (value : t.value scope = .ok v)
    (more : List Token) :
    (whole ⟨scope, false⟩).run (t.yield ++ .mark .rightBracket :: more) =
      .ok v (.mark .rightBracket :: more) := by
  have gives := gives_whole (σ := List Token) (noted_default ⟨scope, false⟩ rfl)
    (t.fits_append fits more) (by simp [Settled]) (stops_mark 0 rfl more)
    (s := t.yield ++ .mark .rightBracket :: more) rfl
  rw [value] at gives
  obtain ⟨us, run, left⟩ := gives.eq_ok id
  have left : us = .mark .rightBracket :: more := left
  rw [run, left]

theorem read_bound (scope : Scope) (x : String) (v : Value) :
    Scope.read ((x, .value v) :: scope) x = .ok v := by
  simp [Scope.read, Datum.isNull, Datum.toValue]

theorem read_other (scope : Scope) {x y : String} (other : y ≠ x) (d : Datum) :
    Scope.read ((x, d) :: scope) y = scope.read y := by
  have differs : (y == x) = false := by simpa using other
  simp [Scope.read, List.lookup_cons, differs]

theorem agree_atom_replaced {t : Tree} (fits : t.Fits []) (value : t.value scope = .ok v)
    (named : isName x = true) {us vs : List Token}
    (paired : (replaced x t.yield).tapes us vs) (head : us.head? = some (.word x)) :
    (replaced x t.yield).Agree
      ((atom ⟨(x, .value v) :: scope, false⟩ (whole ⟨(x, .value v) :: scope, false⟩)).run us)
      ((atom ⟨scope, false⟩ (whole ⟨scope, false⟩)).run vs) := by
  obtain ⟨clean, lone, rfl⟩ := paired
  obtain ⟨ts, rfl⟩ := List.head?_eq_some_iff.mp head
  have clean' := clean.tail (by simp)
  have settled : Settled (substitute x t.yield false ts) := settled_substitute clean'.settled
  have left : (atom ⟨(x, .value v) :: scope, false⟩
      (whole ⟨(x, .value v) :: scope, false⟩)).run (.word x :: ts) = .ok v ts := by
    change (Rule.word _ (whole ⟨(x, .value v) :: scope, false⟩) x).run (.word x :: ts) = _
    rw [word_name named, identifier, run_bind_ok (run_advance _),
      advanced_cons _ clean'.settled, run_bind_ok (run_atMark _ _),
      if_neg (by simpa using lone.unopened), read_bound]
    rfl
  have right : (atom ⟨scope, false⟩ (whole ⟨scope, false⟩)).run
      (substitute x t.yield false (.word x :: ts)) = .ok v (substitute x t.yield false ts) := by
    rw [substitute_word]
    change (bracket (whole ⟨scope, false⟩)).run (.mark .leftBracket :: (t.yield ++
      .mark .rightBracket :: substitute x t.yield false ts)) = _
    rw [bracket, run_bind_ok (run_advance _),
      advanced_cons _ (t.settled_yield (by simp [Settled])), run_bind_ok (run_inserted fits value _)]
    have closed := run_expect .rightBracket
      (.mark .rightBracket :: substitute x t.yield false ts)
    rw [rest_list, List.head?_cons, if_pos rfl, advanced_cons _ settled] at closed
    exact run_bind_ok closed
  rw [left, right]
  exact ⟨rfl, clean', lone.tail (by simp), rfl⟩

theorem lockstep_replaced {t : Tree} (fits : t.Fits []) (value : t.value scope = .ok v)
    (named : isName x = true) :
    (replaced x t.yield).Lockstep (whole ⟨(x, .value v) :: scope, false⟩)
      (whole ⟨scope, false⟩) := by
  apply lockstep_whole steady_replaced
  intro n h us vs paired
  -- Only where `x` stands do the two runs read different tokens.
  by_cases here : us.head? = some (.word x)
  · exact (agree_atom_replaced fits value named paired.1 here).within
      (shrinks_atom (shrinks_whole _) _) paired.2
  have heads : us.head? = vs.head? := by
    obtain ⟨⟨-, -, rfl⟩, -⟩ := paired
    exact (head?_substitute_other t.yield here).symm
  have next : ∀ token, us.head? = some token → token ≠ .mark .quote →
      (replaced x t.yield).tapes (advanced us) (advanced vs) := fun token head unquoted =>
    replaced_advance paired.1 head unquoted fun same => here (same ▸ head)
  have mode : (⟨(x, .value v) :: scope, false⟩ : Setting).legacy =
      (⟨scope, false⟩ : Setting).legacy := rfl
  apply Pairing.agree_atom steady_replaced (shrinks_whole _) (shrinks_whole _) mode h paired heads
    next
  · exact agree_quotation_replaced paired.1
  · intro w head named'
    have other : w ≠ x := fun same => here (same ▸ head)
    refine ⟨?_, fun _ => read_other scope other _⟩
    obtain ⟨-, -, same⟩ := next (.word w) head (by simp)
    have behind : (advanced us).head? ≠ some (.word x) := by
      obtain ⟨⟨clean, lone, -⟩, -⟩ := paired
      obtain ⟨ts, rfl⟩ := List.head?_eq_some_iff.mp head
      rw [advanced_cons _ (clean.tail (by simp)).settled]
      exact lone.behind_name named'
    rw [rest_list, rest_list, same, head?_substitute_other _ behind]

end Replaced

/-- A name bound to the value of an expression may give way to the expression in brackets, whatever
stands around it. -/
theorem evaluate_substitute {scope : Scope} {e : String} (given : tokens e ≠ []) {v : Value}
    (run : Run.ofTokens ⟨scope, false⟩ (tokens e) = ⟨.ok v, (tokens e).length⟩) {x : String}
    (named : isName x = true) {c : String} (lone : Lone x (bare false (tokens c))) :
    evaluate ⟨(x, .value (evaluate ⟨scope, false⟩ e)) :: scope, false⟩ c =
      evaluate ⟨scope, false⟩
        (String.join ((substitute x (tokens e) false (tokens c)).map Token.text)) := by
  rw [ofTokens_eq_ok] at run
  obtain ⟨t, fits, yield, value⟩ := tree_of_whole (canonical_tokens e).start run
  have worth : evaluate ⟨scope, false⟩ e = v := by
    rw [evaluate_eq_verdict _ given, run]
    rfl
  have canonical : Canonical (substitute x (tokens e) false (tokens c)) :=
    canonical_substitute _ (canonical_tokens e) (canonical_tokens c)
  have text := tokens_joined canonical
  by_cases blank : tokens c = []
  · rw [blank, substitute_nil] at text ⊢
    simp only [evaluate, blank, text]
  -- The tokens put in pair up their quotes, so what stands behind them stays outside or inside
  -- string literals as before.
  have closed : quotedAfter false (tokens e) = false := by
    rw [← quotedAfter_bare, ← yield, t.quotedAfter_yield fits]
  have bare : Token.bare false (substitute x (tokens e) false (tokens c)) =
      substitute x t.yield false (Token.bare false (tokens c)) := by
    rw [bare_substitute closed, yield]
  rw [worth, evaluate_eq_verdict _ blank,
    evaluate_eq_verdict _ (by rw [text]; exact fun empty => blank (substitute_eq_nil _ empty)),
    text, verdict_bare _ (canonical_tokens c).start, verdict_bare _ canonical.start, bare]
  apply verdict_congr (P := replaced x t.yield)
  · rintro us _ ⟨-, -, rfl⟩
    constructor
    · rintro (rfl : us = [])
      rfl
    · exact substitute_eq_nil _
  · exact lockstep_replaced fits value named _ _ ⟨bare_bare false _, lone, rfl⟩

theorem evaluate_substitute_error :
    evaluate ⟨[("x", .value (evaluate ⟨[], false⟩ "y"))], false⟩ "ISERROR(x)" =
      evaluate ⟨[], false⟩ "ISERROR((y))" := by
  have lone : Lone "x" (bare false (tokens "ISERROR(x)")) := by
    intro before behind same _
    have listed : bare false (tokens "ISERROR(x)") =
        [.word "ISERROR", .mark .leftBracket, .word "x", .mark .rightBracket] := by rfl
    rw [listed] at same
    obtain _ | ⟨a, _ | ⟨b, _ | ⟨c, _ | ⟨d, before⟩⟩⟩⟩ := before <;> simp_all
    obtain ⟨rfl, rfl, rfl⟩ := same
    simp
  exact evaluate_substitute (by decide) (v := .nameError) (by rfl) (by decide) lone

end Formulary
