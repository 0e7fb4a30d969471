import Formulary.Proofs.Grammar.Sound
import Formulary.Proofs.Reading.Verdict
import Formulary.Proofs.Tokens.Brackets
import Formulary.Proofs.Tokens.Tidy

set_option autoImplicit false

namespace Formulary

open Tape Rule Token

theorem Operation.neutral (op : Operation) : Neutral (.mark op.mark) := by
  simp [Neutral, op.mark_ne (m := .quote) rfl,
    op.mark_ne (m := .leftBracket) rfl,
    op.mark_ne (m := .rightBracket) rfl]

theorem Operator.Additive.neutral (o : Operator.Additive) : Neutral (.mark o.mark) :=
  (Operation.add o).neutral

namespace Tree

theorem closes_yieldAll (ts : List Tree) {next next' : List Token} (fits : FitAll ts next')
    (each : ∀ t ∈ ts, ∀ next next' depth, t.Fits next' →
      closes false depth (t.yield ++ next) = closes false depth next) (depth : Nat) :
    closes false depth (yieldAll ts ++ next) = closes false depth next := by
  induction ts generalizing next' with
  | nil => rfl
  | cons t ts ih =>
      rw [yieldAll_append]
      cases ts with
      | nil => exact each t (List.mem_cons_self ..) _ _ _ fits
      | cons u us =>
          obtain ⟨fitsFirst, fitsOthers⟩ := fits
          have others := ih fitsOthers fun t mem => each t (List.mem_cons_of_mem _ mem)
          rw [if_neg (by simp), each t (List.mem_cons_self ..) _ _ _ fitsFirst,
            closes_neutral (by simp [Neutral]), others]

theorem closes_yield (t : Tree) {next next' : List Token} (fits : t.Fits next') (depth : Nat) :
    closes false depth (t.yield ++ next) = closes false depth next := by
  induction t generalizing next next' depth with
  | missing => rfl
  | number w => exact closes_neutral (neutral_word w) false depth next
  | keyword w => exact closes_neutral (neutral_word w) false depth next
  | name x => exact closes_neutral (neutral_word x) false depth next
  | text content =>
      have unquoted : .mark .quote ∉ content := fits
      simpa [yield] using closes_quotation unquoted depth next
  | sign o t ih =>
      rw [yield, List.cons_append, closes_neutral o.neutral, ih fits.2]
  | bracket t ih =>
      simp only [yield, List.cons_append, List.append_assoc, List.nil_append]
      rw [closes_left, ih fits, closes_right]
  | binary op a b iha ihb =>
      obtain ⟨-, -, fitsLeft, fitsRight⟩ := fits
      simp only [yield, List.cons_append, List.append_assoc]
      rw [iha fitsLeft, closes_neutral op.neutral, ihb fitsRight]
  | call f args ih =>
      obtain ⟨-, -, fits⟩ := fits
      simp only [yield, List.cons_append, List.append_assoc, List.nil_append]
      rw [closes_neutral (neutral_word f), closes_left,
        closes_yieldAll args fits fun t mem _ _ depth fits => ih t mem fits depth, closes_right]

end Tree

theorem tree_of_whole {scope : Scope} {ts : List Token} (settled : Settled ts) {v : Value}
    (run : (whole ⟨scope, false⟩).run ts = .ok v []) :
    ∃ t : Tree, t.Fits [] ∧ t.yield = bare false ts ∧ t.value scope = .ok v := by
  rw [run_bare_eq_ok ⟨scope, false⟩ settled] at run
  obtain ⟨t, here, fits, value⟩ := parses_whole (σ := List Token) rfl run (bare_bare false ts)
  exact ⟨t, fits, by simpa using here.symm, value⟩

theorem balanced_of_tree {t : Tree} (fits : t.Fits []) {ts : List Token}
    (yield : t.yield = bare false ts) : Token.Balanced ts := by
  rw [Token.Balanced, ← closes_bare, ← yield, ← List.append_nil t.yield, t.closes_yield fits]
  rfl

/-- What default mode reads to the end without a fault is the yield of a tree of the grammar, spaces
outside string literals aside, and the result is the value of that tree. So brackets that do not
pair up end in an error. -/
theorem accepts_trees (scope : Scope) (e : String) (given : tokens e ≠ []) :
    (∀ v, Run.ofTokens ⟨scope, false⟩ (tokens e) = ⟨.ok v, (tokens e).length⟩ →
      evaluate ⟨scope, false⟩ e = v ∧ Token.Balanced (tokens e) ∧
        ∃ t : Tree, t.Fits [] ∧ t.yield = bare false (tokens e) ∧ t.value scope = .ok v) ∧
    (¬Token.Balanced (tokens e) → (evaluate ⟨scope, false⟩ e).isError = true) := by
  have settled : Settled (tokens e) := (canonical_tokens e).start
  have accepted {v : Value} (run : (whole ⟨scope, false⟩).run (tokens e) = .ok v []) :
      Token.Balanced (tokens e) ∧
        ∃ t : Tree, t.Fits [] ∧ t.yield = bare false (tokens e) ∧ t.value scope = .ok v := by
    obtain ⟨t, fits, yield, value⟩ := tree_of_whole settled run
    exact ⟨balanced_of_tree fits yield, t, fits, yield, value⟩
  rw [evaluate_eq_verdict ⟨scope, false⟩ given]
  constructor
  · intro v run
    rw [ofTokens_eq_ok] at run
    exact ⟨by rw [run]; rfl, accepted run⟩
  · intro unbalanced
    cases run : (whole ⟨scope, false⟩).run (tokens e) with
    | error f us => rfl
    | ok v us =>
        -- A run that stops before the end leaves tokens over, which is an error of its own.
        by_cases read : us = []
        · rw [read] at run
          exact absurd (accepted run).1 unbalanced
        · rw [verdict, rest_list, if_neg read]
          rfl

theorem accepts_trees_missing :
    evaluate ⟨[], false⟩ "ISERROR(*)" = .boolean true ∧
      ∃ t : Tree, t.Fits [] ∧ t.yield = bare false (tokens "ISERROR(*)") ∧
        t.value [] = .ok (.boolean true) := by
  have accepted := (accepts_trees [] "ISERROR(*)" (by decide)).1 (.boolean true) (by rfl)
  exact ⟨accepted.1, accepted.2.2⟩

/-- Nothing but blanks is never read: its value is text, not that of a missing operand. -/
theorem blank_is_no_tree :
    tokens "" = [] ∧ evaluate ⟨[], false⟩ "" = .string "" ∧
      ∀ t : Tree, t.Fits [] → t.yield = bare false (tokens "") →
        t.value [] ≠ .ok (.string "") := by
  refine ⟨by rfl, by rfl, ?_⟩
  intro t fits yield
  have empty : tokens "" = [] := by rfl
  rw [empty, bare_nil] at yield
  cases t with
  | missing => rintro ⟨⟩
  | _ => simp [Tree.yield] at yield

end Formulary
