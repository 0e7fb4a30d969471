import Formulary.Proofs.Grammar.Literal
import Formulary.Proofs.Tokens.Inner
import Mathlib.Data.List.SplitBy

set_option autoImplicit false

namespace Formulary

namespace Text

def runs (cs : List Char) : List (List Char) := cs.splitBy fun c d => isBlank c == isBlank d

def collapse (cs : List Char) : List Char :=
  (runs cs).flatMap fun run => if run.all isBlank then [' '] else run

section Runs

theorem squeezeFrom_visible {cs : List Char} (first : ∀ c, cs.head? = some c → isBlank c = false) :
    squeezeFrom true cs = squeezeFrom false cs := by
  cases cs with
  | nil => rfl
  | cons c cs => simp [squeezeFrom, first c rfl]

theorem squeezeFrom_past {bs : List Char} (blank : ∀ c ∈ bs, isBlank c = true) (cs : List Char) :
    squeezeFrom true (bs ++ cs) = squeezeFrom true cs := by
  induction bs with
  | nil => rfl
  | cons b bs ih =>
      obtain ⟨first, others⟩ := List.forall_mem_cons.mp blank
      rw [List.cons_append, squeezeFrom, if_pos first, if_pos rfl, ih others]

theorem alike_of_isChain {c : Char} {cs : List Char}
    (alike : (c :: cs).IsChain fun c d => isBlank c == isBlank d) :
    ∀ d ∈ c :: cs, isBlank d = isBlank c := by
  induction cs generalizing c with
  | nil => simp
  | cons d cs ih =>
      obtain ⟨same, behind⟩ := List.isChain_cons_cons.mp alike
      rw [beq_iff_eq] at same
      refine List.forall_mem_cons.mpr ⟨rfl, fun e mem => ?_⟩
      rw [same]
      exact ih behind e mem

theorem squeeze_flatten {gs : List (List Char)} (given : [] ∉ gs)
    (alike : ∀ g ∈ gs, g.IsChain fun c d => isBlank c == isBlank d)
    (turns : gs.IsChain fun g h => ∃ hg hh, (isBlank (g.getLast hg) == isBlank (h.head hh)) = false) :
    squeeze gs.flatten = gs.flatMap fun run => if run.all isBlank then [' '] else run := by
  induction gs with
  | nil => rfl
  | cons g gs ih =>
      simp only [List.mem_cons, not_or] at given
      obtain ⟨first, others⟩ := List.forall_mem_cons.mp alike
      obtain ⟨c, ds, rfl⟩ := List.exists_cons_of_ne_nil (Ne.symm given.1)
      have kind := alike_of_isChain first
      rw [List.flatten_cons, List.flatMap_cons, ← ih given.2 others turns.tail]
      cases blank : isBlank c with
      | true =>
          rw [blank] at kind
          -- The run is one space as a whole, since the next run is a visible one.
          have behind : ∀ d, gs.flatten.head? = some d → isBlank d = false := by
            intro d head
            cases gs with
            | nil => cases head
            | cons h gs =>
                obtain ⟨_, given', differ⟩ := (List.isChain_cons_cons.mp turns).1
                rw [kind _ (List.getLast_mem _)] at differ
                rw [List.flatten_cons, List.head?_append_of_ne_nil _ given',
                  List.head?_eq_some_head given'] at head
                cases head
                simpa using differ
          rw [if_pos (List.all_eq_true.mpr kind), squeeze, List.cons_append, squeezeFrom,
            if_pos blank, if_neg (by simp), squeezeFrom_past fun d mem => kind d (by simp [mem]),
            squeezeFrom_visible behind]
          rfl
      | false =>
          rw [blank] at kind
          rw [if_neg (by simp [blank]), squeeze, Token.squeezeFrom_plain (by simp) kind]
          rfl

theorem squeeze_eq_collapse (cs : List Char) : squeeze cs = collapse cs := by
  obtain ⟨joined, given, alike, turns⟩ := List.splitBy_eq_iff.mp (rfl : runs cs = runs cs)
  have squeezed := squeeze_flatten given alike turns
  rwa [← joined] at squeezed

theorem mem_collapse {c : Char} {cs : List Char} (mem : c ∈ collapse cs) : c = ' ' ∨ c ∈ cs := by
  obtain ⟨run, here, mem⟩ := List.mem_flatMap.mp mem
  split at mem
  · exact .inl (List.mem_singleton.mp mem)
  · refine .inr ?_
    rw [← List.flatten_splitBy (fun c d => isBlank c == isBlank d) cs]
    exact List.mem_flatten.mpr ⟨run, here, mem⟩

end Runs

end Text

open Rule Tape Token

def inQuotes (s : String) : String := "\"" ++ s ++ "\""

section Quoted

variable {s : String} (unquoted : '"' ∉ s.toList)

theorem tokens_inQuotes (s : String) :
    tokens (inQuotes s) = .mark .quote :: (inner s ++ [.mark .quote]) := by
  have single : Single .quote := by simp [Single]
  have opened : inner ("\"" ++ s) = .mark .quote :: inner s := by
    have cut := inner_mark single (by decide) "" s
    rw [String.empty_append] at cut
    exact cut
  have closed : inner (inQuotes s) = .mark .quote :: (inner s ++ [.mark .quote]) := by
    have cut := inner_mark single (by decide) ("\"" ++ s) ""
    rw [String.append_empty, opened] at cut
    exact cut
  rw [tokens_eq_inner, closed] <;> rw [closed]
  · simp
  · simp [List.getLast?_cons]

include unquoted in
theorem unquoted_inner : .mark .quote ∉ inner s := by
  apply unquoted_split
  rw [Text.squeeze_eq_collapse]
  intro mem
  obtain same | mem := Text.mem_collapse mem
  · exact absurd same (by decide)
  · exact unquoted mem

theorem join_inner (s : String) :
    String.join ((inner s).map Token.text) = String.ofList (Text.collapse s.toList) := by
  apply String.toList_injective
  rw [chars_eq_join, Token.inner, chars_split, Text.squeeze_eq_collapse, String.toList_ofList]
  rfl

include unquoted in
/-- A string literal means the text between its quotes, whatever looks like a formula there. -/
theorem evaluate_inQuotes (setting : Setting) :
    evaluate setting (inQuotes s) = .string (String.ofList (Text.collapse s.toList)) := by
  apply evaluate_of_run (tokens_inQuotes s) (by simp) (Nat.le_refl 5)
  have here : rest (Token.mark .quote :: (inner s ++ [.mark .quote])) =
      .mark .quote :: (inner s ++ .mark .quote :: []) := rfl
  obtain ⟨run, behind⟩ := run_quotation_closed (unquoted_inner unquoted) here
  rw [run_unsigned rfl]
  change (quotation : Cursor (List Token) Value).run _ = _
  rw [run, join_inner]
  exact congrArg _ behind

theorem evaluate_inQuotes_formula :
    '"' ∉ "\t1 <=  SUM('a',,\n.5)^TRUE ".toList ∧
      evaluate ⟨[], true⟩ (inQuotes "\t1 <=  SUM('a',,\n.5)^TRUE ") =
        .string " 1 <= SUM('a',, .5)^TRUE " := by
  have unquoted : '"' ∉ "\t1 <=  SUM('a',,\n.5)^TRUE ".toList := by decide
  refine ⟨unquoted, (evaluate_inQuotes unquoted ⟨[], true⟩).trans ?_⟩
  have collapsed : Text.collapse "\t1 <=  SUM('a',,\n.5)^TRUE ".toList =
      " 1 <= SUM('a',, .5)^TRUE ".toList := by decide
  rw [collapsed, String.ofList_toList]

end Quoted

end Formulary
