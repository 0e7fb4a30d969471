import Formulary.Proofs.Grammar.Complete
import Formulary.Proofs.Reading.Verdict
import Formulary.Proofs.Tokens.Pieces

set_option autoImplicit false

namespace Formulary

open Tape Rule Token

theorem toNat_of_startsNumber {c : Char} (starts : (Text.isAsciiDigit c || c == '.') = true) :
    c.toNat ≤ 57 := by
  simp only [Text.isAsciiDigit, Bool.or_eq_true, Bool.and_eq_true, decide_eq_true_eq,
    beq_iff_eq] at starts
  obtain ⟨-, le⟩ | rfl := starts
  · exact le
  · decide

theorem head?_lower {w : String} {c : Char} {cs : List Char} (text : w.toList = c :: cs)
    (low : c.toNat ≤ 57) : (Text.lower w).toList.head? = some c := by
  have noSigma : c ≠ 'Σ' := by
    rintro rfl
    exact absurd low (by decide)
  have lowered : c.toLower = c := by
    apply dif_neg
    rintro ⟨upper, -⟩
    have bound : 65 ≤ c.toNat := UInt32.le_iff_toNat_le.mp upper
    omega
  rw [Text.lower, text, String.toList_ofList, Text.lowerAfter, if_neg noSigma, Text.lowerChar,
    if_pos (by omega), lowered]
  rfl

theorem boolean?_of_low {w : String} {c : Char} {cs : List Char} (text : w.toList = c :: cs)
    (low : c.toNat ≤ 57) : boolean? w = none := by
  have head := head?_lower text low
  have differs (t : String) (high : ∀ c ∈ t.toList.head?, 57 < c.toNat) : Text.lower w ≠ t := by
    rintro rfl
    exact absurd (high c head) (by omega)
  simp [boolean?, differs "true" (by simp), differs "false" (by simp)]

theorem startsNumber_of_isKeyword {w : String} (keyword : isKeyword w = true) :
    startsNumber w = false := by
  rw [startsNumber]
  cases text : w.toList with
  | nil => rfl
  | cons c cs =>
      rw [← Bool.not_eq_true]
      intro starts
      have none := boolean?_of_low text (toNat_of_startsNumber starts)
      simp [isKeyword, none] at keyword

namespace Tree

def literal (s : String) : Tree := .text (Token.split [] s.toList)

mutual

/-- A tree that can be written down: its words are words and its texts hold no double quote and no
blanks but single spaces. -/
def Legible : Tree → Prop
  | .missing => False
  | .number w => IsWord w ∧ startsNumber w = true
  | .keyword w => IsWord w ∧ isKeyword w = true
  | .text content => ∃ s : String, '"' ∉ s.toList ∧ Tidy s.toList ∧ .text content = literal s
  | .name x => IsWord x ∧ isName x = true
  | .sign _ t | .bracket t => t.Legible
  | .binary _ a b => a.Legible ∧ b.Legible
  | .call f args => (IsWord f ∧ isName f = true) ∧ AllLegible args

def AllLegible : List Tree → Prop
  | [] => True
  | t :: ts => t.Legible ∧ AllLegible ts

end

def raised (k : Nat) (t : Tree) : Tree := if k ≤ t.tier then t else .bracket t

mutual

def bracketed : Tree → Tree
  | .sign o t => .sign o (raised 5 t.bracketed)
  | .bracket t => .bracket t.bracketed
  | .binary op a b => .binary op (raised op.leftTier a.bracketed) (raised op.rightTier b.bracketed)
  | .call f args => .call f (bracketedAll args)
  | t => t

def bracketedAll : List Tree → List Tree
  | [] => []
  | t :: ts => t.bracketed :: bracketedAll ts

end

mutual

def pieces : Tree → List (List Token)
  | .missing => []
  | .number w | .keyword w | .name w => [[.word w]]
  | .text content => [.mark .quote :: (content ++ [.mark .quote])]
  | .sign o t => [.mark o.mark] :: t.pieces
  | .bracket t => [.mark .leftBracket] :: (t.pieces ++ [[.mark .rightBracket]])
  | .binary op a b => a.pieces ++ [.mark op.mark] :: b.pieces
  | .call f args =>
      [.word f] :: [.mark .leftBracket] :: (piecesAll args ++ [[.mark .rightBracket]])

def piecesAll : List Tree → List (List Token)
  | [] => []
  | [t] => t.pieces
  | t :: u :: ts => t.pieces ++ [.mark .comma] :: piecesAll (u :: ts)

end

def print (t : Tree) : String :=
  " ".intercalate (t.bracketed.pieces.map fun piece => String.join (piece.map Token.text))

theorem value_literal (scope : Scope) (s : String) : (literal s).value scope = .ok (.string s) := by
  have joined : String.join ((Token.split [] s.toList).map Token.text) = s := by
    apply String.toList_inj.mp
    have text := chars_split [] s.toList
    simpa [chars, List.flatMap_map] using text
  rw [literal, value, joined]

theorem legible_of_mem {ts : List Tree} (legible : AllLegible ts) : ∀ t ∈ ts, t.Legible := by
  induction ts with
  | nil => simp
  | cons t ts ih =>
      intro u mem
      obtain rfl | mem := List.mem_cons.mp mem
      · exact legible.1
      · exact ih legible.2 u mem

section Bracketed

theorem value_raised (k : Nat) (t : Tree) (scope : Scope) :
    (raised k t).value scope = t.value scope := by
  rw [raised]
  split <;> rfl

theorem values_bracketedAll (scope : Scope) (ts : List Tree)
    (each : ∀ t ∈ ts, t.bracketed.value scope = t.value scope) :
    values scope (bracketedAll ts) = values scope ts := by
  induction ts with
  | nil => rfl
  | cons t ts ih =>
      rw [bracketedAll, values, values, each t (List.mem_cons_self ..),
        ih fun u mem => each u (List.mem_cons_of_mem _ mem)]

theorem value_bracketed (scope : Scope) (t : Tree) :
    t.bracketed.value scope = t.value scope := by
  induction t with
  | sign o t ih => rw [bracketed, value, value, value_raised, ih]
  | bracket t ih => rw [bracketed, value, value, ih]
  | binary op a b iha ihb => rw [bracketed, value, value, value_raised, value_raised, iha, ihb]
  | call f args ih => rw [bracketed, value, value, values_bracketedAll scope args ih]
  | _ => rfl

theorem tier_raised {k : Nat} (le : k ≤ 5) (t : Tree) : k ≤ (raised k t).tier := by
  rw [raised]
  split
  · assumption
  · exact le

theorem fits_raised {t : Tree} (fits : ∀ next : List Token,
    next.head? ≠ some (.mark .leftBracket) → t.Fits next) (k : Nat) {next : List Token}
    (unopened : next.head? ≠ some (.mark .leftBracket)) : (raised k t).Fits next := by
  rw [raised]
  split
  · exact fits next unopened
  · exact fits (.mark .rightBracket :: next) (by simp)

theorem bracketed_eq_missing {t : Tree} (legible : t.Legible) : t.bracketed ≠ .missing := by
  cases t with
  | missing => exact legible.elim
  | _ => simp [bracketed]

theorem fitAll_bracketedAll {ts : List Tree}
    (each : ∀ t ∈ ts, ∀ next : List Token, next.head? ≠ some (.mark .leftBracket) →
      t.bracketed.Fits next)
    {next : List Token} (unopened : next.head? ≠ some (.mark .leftBracket)) :
    FitAll (bracketedAll ts) next := by
  induction ts with
  | nil => trivial
  | cons t ts ih =>
      have others := ih fun u mem => each u (List.mem_cons_of_mem _ mem)
      cases ts with
      | nil => exact each t (List.mem_cons_self ..) next unopened
      | cons u us => exact ⟨each t (List.mem_cons_self ..) _ (by simp), others⟩

theorem fits_bracketed {t : Tree} (legible : t.Legible) {next : List Token}
    (unopened : next.head? ≠ some (.mark .leftBracket)) : t.bracketed.Fits next := by
  induction t generalizing next with
  | missing => exact legible.elim
  | number w => exact legible.2
  | keyword w => exact ⟨startsNumber_of_isKeyword legible.2, legible.2⟩
  | text content =>
      obtain ⟨s, unquoted, -, same⟩ := legible
      obtain rfl : content = Token.split [] s.toList := Tree.text.inj same
      exact unquoted_split unquoted
  | name x => exact ⟨legible.2, unopened⟩
  | sign o t ih =>
      refine ⟨Nat.le_antisymm (tier_le _) (tier_raised (Nat.le_refl 5) _), ?_⟩
      exact fits_raised (fun next unopened => ih legible unopened) 5 unopened
  | bracket t ih => exact ih legible (by simp)
  | binary op a b iha ihb =>
      refine ⟨tier_raised op.leftTier_le _, tier_raised op.rightTier_le _, ?_, ?_⟩
      · apply fits_raised (fun next unopened => iha legible.1 unopened)
        simp [op.mark_ne (m := .leftBracket) rfl]
      · exact fits_raised (fun next unopened => ihb legible.2 unopened) _ unopened
  | call f args ih =>
      obtain ⟨⟨-, name⟩, each⟩ := legible
      refine ⟨name, ?_, ?_⟩
      · cases args with
        | nil => simp [bracketedAll]
        | cons t ts =>
            intro missing
            exact bracketed_eq_missing each.1 (List.cons.inj missing).1
      · exact fitAll_bracketedAll
          (fun t mem next unopened => ih t mem (legible_of_mem each t mem) unopened) (by simp)

theorem legible_raised {t : Tree} (legible : t.Legible) (k : Nat) : (raised k t).Legible := by
  rw [raised]
  split <;> exact legible

theorem legible_bracketed {t : Tree} (legible : t.Legible) : t.bracketed.Legible := by
  induction t with
  | missing => exact legible
  | number w => exact legible
  | keyword w => exact legible
  | text content => exact legible
  | name x => exact legible
  | sign o t ih => exact legible_raised (ih legible) 5
  | bracket t ih => exact ih legible
  | binary op a b iha ihb =>
      exact ⟨legible_raised (iha legible.1) _, legible_raised (ihb legible.2) _⟩
  | call f args ih =>
      refine ⟨legible.1, ?_⟩
      have each := legible_of_mem legible.2
      change AllLegible (bracketedAll args)
      clear legible
      induction args with
      | nil => trivial
      | cons t ts ihs =>
          exact ⟨ih t (List.mem_cons_self ..) (each t (List.mem_cons_self ..)),
            ihs (fun u mem => ih u (List.mem_cons_of_mem _ mem))
              fun u mem => each u (List.mem_cons_of_mem _ mem)⟩

end Bracketed

section Pieces

theorem flatten_piecesAll (ts : List Tree) (each : ∀ t ∈ ts, t.pieces.flatten = t.yield) :
    (piecesAll ts).flatten = yieldAll ts := by
  induction ts with
  | nil => rfl
  | cons t ts ih =>
      have others := ih fun u mem => each u (List.mem_cons_of_mem _ mem)
      cases ts with
      | nil => exact each t (List.mem_cons_self ..)
      | cons u us =>
          rw [piecesAll, yieldAll, List.flatten_append, List.flatten_cons, others,
            each t (List.mem_cons_self ..)]
          rfl

theorem flatten_pieces (t : Tree) : t.pieces.flatten = t.yield := by
  induction t with
  | call f args ih => simp [pieces, yield, flatten_piecesAll args ih]
  | _ => simp_all [pieces, yield]

theorem piece_piecesAll {ts : List Tree} (each : ∀ t ∈ ts, ∀ piece ∈ t.pieces, Piece piece) :
    ∀ piece ∈ piecesAll ts, Piece piece := by
  induction ts with
  | nil => simp [piecesAll]
  | cons t ts ih =>
      have others := ih fun u mem => each u (List.mem_cons_of_mem _ mem)
      cases ts with
      | nil => exact each t (List.mem_cons_self ..)
      | cons u us =>
          intro piece mem
          simp only [piecesAll, List.mem_append, List.mem_cons] at mem
          obtain mem | rfl | mem := mem
          · exact each t (List.mem_cons_self ..) piece mem
          · exact piece_mark (by decide) (by decide)
          · exact others piece mem

theorem piece_pieces {t : Tree} (legible : t.Legible) : ∀ piece ∈ t.pieces, Piece piece := by
  induction t with
  | missing => exact legible.elim
  | number w => simpa [pieces] using piece_word legible.1
  | keyword w => simpa [pieces] using piece_word legible.1
  | name x => simpa [pieces] using piece_word legible.1
  | text content =>
      obtain ⟨s, unquoted, tidy, same⟩ := legible
      obtain rfl : content = Token.split [] s.toList := Tree.text.inj same
      simpa [pieces] using piece_quotation unquoted tidy
  | sign o t ih =>
      intro piece mem
      obtain rfl | mem := List.mem_cons.mp mem
      · cases o <;> exact piece_mark (by decide) (by decide)
      · exact ih legible piece mem
  | bracket t ih =>
      intro piece mem
      simp only [pieces, List.mem_cons, List.mem_append, List.not_mem_nil, or_false] at mem
      obtain rfl | mem | rfl := mem
      · exact piece_mark (by decide) (by decide)
      · exact ih legible piece mem
      · exact piece_mark (by decide) (by decide)
  | binary op a b iha ihb =>
      intro piece mem
      simp only [pieces, List.mem_append, List.mem_cons] at mem
      obtain mem | rfl | mem := mem
      · exact iha legible.1 piece mem
      · exact piece_mark (op.mark_ne rfl) (op.mark_ne rfl)
      · exact ihb legible.2 piece mem
  | call f args ih =>
      obtain ⟨⟨word, -⟩, each⟩ := legible
      have inside := piece_piecesAll fun t mem => ih t mem (legible_of_mem each t mem)
      intro piece mem
      simp only [pieces, List.mem_cons, List.mem_append, List.not_mem_nil, or_false] at mem
      obtain rfl | rfl | mem | rfl := mem
      · exact piece_word word
      · exact piece_mark (by decide) (by decide)
      · exact inside piece mem
      · exact piece_mark (by decide) (by decide)

end Pieces

theorem yield_ne_nil {t : Tree} (legible : t.Legible) : t.yield ≠ [] := by
  cases t with
  | missing => exact legible.elim
  | _ => simp [yield]

/-- Evaluating the text of a tree finds the value of the tree. Where a fault stops the tree, the
evaluation ends with `#VALUE`. -/
theorem evaluate_print {t : Tree} (legible : t.Legible) (scope : Scope) :
    evaluate ⟨scope, false⟩ t.print =
      match t.value scope with
      | .ok v => v
      | .error _ => .valueError := by
  have bracketed := legible_bracketed legible
  have canonical := canonical_spread (piece_pieces bracketed)
  have printed : tokens t.print = spread t.bracketed.pieces := by
    rw [print, ← join_spread]
    exact tokens_joined canonical
  -- Without the spaces that were printed the tokens are the yield of the bracketed tree.
  have bare : Token.bare false (spread t.bracketed.pieces) = t.bracketed.yield := by
    rw [bare_spread (piece_pieces bracketed), flatten_pieces]
  have given : tokens t.print ≠ [] := by
    rw [printed]
    intro empty
    rw [empty] at bare
    exact yield_ne_nil bracketed bare.symm
  have gives := gives_whole (σ := List Token) (noted_default ⟨scope, false⟩ rfl)
    (fits_bracketed legible (by simp) : t.bracketed.Fits []) (by simp [Settled]) (stops_nil 0)
    (s := t.bracketed.yield) (by simp)
  rw [value_bracketed] at gives
  rw [evaluate_eq_verdict _ given, printed, verdict_bare _ canonical.start, bare]
  cases value : t.value scope with
  | ok v =>
      rw [value] at gives
      obtain ⟨us, run, read⟩ := gives.eq_ok id
      rw [run, verdict, if_pos read]
  | error f =>
      rw [value] at gives
      obtain ⟨us, run⟩ := gives.eq_error id
      rw [run, verdict]

theorem evaluate_print_product :
    (binary (.multiply .times) (.binary .concat (.name "x") (literal "a b"))
      (.keyword "true")).print = "( x & \"a b\" ) * true" ∧
    evaluate ⟨[], false⟩ (binary (.multiply .times)
      (.binary .concat (.name "x") (literal "a b")) (.keyword "true")).print = .nameError := by
  have legible : (binary (.multiply .times) (.binary .concat (.name "x") (literal "a b"))
      (.keyword "true")).Legible :=
    ⟨⟨⟨by decide, by decide⟩, "a b", by decide, by decide, rfl⟩, by decide, by decide⟩
  exact ⟨by rfl, evaluate_print legible []⟩

end Tree

end Formulary
