import Formulary.Proofs.Grammar.Complete
import Formulary.Proofs.Reading.Verdict
import Formulary.Proofs.Tokens.Tidy

set_option autoImplicit false

namespace Formulary

open Tape Rule Token

namespace Tree

def children : Tree → List Tree
  | .sign _ t | .bracket t => [t]
  | .binary _ a b => [a, b]
  | .call _ args => args
  | .missing | .number _ | .keyword _ | .text _ | .name _ => []

/-- The part of a tree at the end of a path, which tells the operand or the argument to go into. -/
def part? : Tree → List Nat → Option Tree
  | t, [] => some t
  | t, i :: path => t.children[i]?.bind (·.part? path)

theorem part?_cons {t u : Tree} {i : Nat} {path : List Nat} :
    t.part? (i :: path) = some u ↔ ∃ c, t.children[i]? = some c ∧ c.part? path = some u := by
  rw [part?, Option.bind_eq_some_iff]

section Fits

theorem head_cons (t : Token) (next next' : List Token) :
    ∀ token, (t :: next').head? = some token → (t :: next).head? = some token :=
  fun _ same => same

theorem fitAll_of_head (ts : List Tree) {next next' : List Token}
    (head : ∀ token, next'.head? = some token → next.head? = some token) (fits : FitAll ts next)
    (each : ∀ t ∈ ts, ∀ next next' : List Token,
      (∀ token, next'.head? = some token → next.head? = some token) → t.Fits next → t.Fits next') :
    FitAll ts next' := by
  induction ts with
  | nil => trivial
  | cons t ts ih =>
      cases ts with
      | nil => exact each t (List.mem_cons_self ..) _ _ head fits
      | cons u us =>
          obtain ⟨fitsFirst, fitsOthers⟩ := fits
          exact ⟨each t (List.mem_cons_self ..) _ _ (head_cons _ _ _) fitsFirst,
            ih fitsOthers fun t mem => each t (List.mem_cons_of_mem _ mem)⟩

theorem fits_of_head {t : Tree} {next next' : List Token}
    (head : ∀ token, next'.head? = some token → next.head? = some token) (fits : t.Fits next) :
    t.Fits next' := by
  induction t generalizing next next' with
  | missing => exact fun token first => fits token (head token first)
  | number w => exact fits
  | keyword w => exact fits
  | text content => exact fits
  | name x => exact ⟨fits.1, fun opened => fits.2 (head _ opened)⟩
  | sign o t ih => exact ⟨fits.1, ih head fits.2⟩
  | bracket t ih => exact ih (head_cons (.mark .rightBracket) next next') fits
  | binary op a b iha ihb =>
      obtain ⟨leftTier, rightTier, fitsLeft, fitsRight⟩ := fits
      exact ⟨leftTier, rightTier, iha (head_cons _ _ _) fitsLeft, ihb head fitsRight⟩
  | call f args ih =>
      obtain ⟨known, given, fits⟩ := fits
      exact ⟨known, given, fitAll_of_head args (head_cons _ _ _) fits
        fun t mem _ _ head fits => ih t mem head fits⟩

theorem fits_alone {t : Tree} {next : List Token} (fits : t.Fits next) : t.Fits [] :=
  fits_of_head (by simp) fits

theorem fits_argument {ts : List Tree} {next : List Token} (fits : FitAll ts next) :
    ∀ t ∈ ts, t.Fits [] := by
  induction ts with
  | nil => simp
  | cons t ts ih =>
      cases ts with
      | nil => simpa using fits_alone fits
      | cons u us =>
          obtain ⟨fitsFirst, fitsOthers⟩ := fits
          exact List.forall_mem_cons.mpr ⟨fits_alone fitsFirst, ih fitsOthers⟩

theorem fits_child {t : Tree} {next : List Token} (fits : t.Fits next) :
    ∀ c ∈ t.children, c.Fits [] := by
  cases t with
  | sign o t => simpa [children] using fits_alone fits.2
  | bracket t =>
      have inner : t.Fits (.mark .rightBracket :: next) := fits
      simpa [children] using fits_alone inner
  | binary op a b =>
      obtain ⟨-, -, fitsLeft, fitsRight⟩ := fits
      simpa [children] using ⟨fits_alone fitsLeft, fits_alone fitsRight⟩
  | call f args => exact fits_argument fits.2.2
  | _ => simp [children]

theorem fits_part {t u : Tree} {path : List Nat} (fits : t.Fits [])
    (part : t.part? path = some u) : u.Fits [] := by
  induction path generalizing t with
  | nil =>
      cases part
      exact fits
  | cons i path ih =>
      obtain ⟨c, child, part⟩ := part?_cons.mp part
      exact ih (fits_child fits c (List.mem_of_getElem? child)) part

end Fits

section Runs

variable {scope : Scope} {t : Tree} {v : Value}

theorem ofTokens_yield (fits : t.Fits []) (value : t.value scope = .ok v) :
    Run.ofTokens ⟨scope, false⟩ t.yield = ⟨.ok v, t.yield.length⟩ := by
  have gives := gives_whole (σ := List Token) (noted_default ⟨scope, false⟩ rfl) fits
    (by simp [Settled]) (stops_nil 0) (s := t.yield) (by simp)
  rw [value] at gives
  obtain ⟨us, run, (rfl : us = [])⟩ := gives.eq_ok id
  exact ofTokens_eq_ok.mpr run

theorem value_of_ofTokens (fits : t.Fits []) {ts : List Token} (settled : Settled ts)
    (written : t.yield = bare false ts)
    (run : Run.ofTokens ⟨scope, false⟩ ts = ⟨.ok v, ts.length⟩) : t.value scope = .ok v := by
  have whole := (run_bare_eq_ok ⟨scope, false⟩ settled).mp (ofTokens_eq_ok.mp run)
  have gives := gives_whole (σ := List Token) (noted_default ⟨scope, false⟩ rfl) fits
    (by simp [Settled]) (stops_nil 0) (s := t.yield) (by simp)
  rw [written, whole] at gives
  obtain cut | ⟨value, -⟩ := gives
  · exact cut.elim
  · exact value

end Runs

end Tree

end Formulary
