import Formulary.Proofs.Function.Variadic
import Formulary.Proofs.Grammar.Extension
import Formulary.Proofs.Grammar.Stopped
import Formulary.Proofs.Tokens.Inner

set_option autoImplicit false

namespace Formulary

open Tape Rule Token

def outcome (scope : Scope) (e : String) : Except Fault Value :=
  (Run.ofTokens ⟨scope, false⟩ (tokens e)).outcome

/-- An expression that misses no mark and leaves no token over, unless it fails before. -/
def Alone (scope : Scope) (e : String) : Prop :=
  (Run.ofTokens ⟨scope, false⟩ (tokens e)).Complete (tokens e).length

/-- Two expressions that end alike in default mode, with one value or one fault. -/
structure SameResult (scope : Scope) (e e' : String) : Prop where
  outcome : outcome scope e = outcome scope e'
  value : evaluate ⟨scope, false⟩ e = evaluate ⟨scope, false⟩ e'

def inBrackets (e : String) : String := "(" ++ e ++ ")"

def callText (name : String) (es : List String) : String :=
  name ++ "(" ++ ",".intercalate (es.map inBrackets) ++ ")"

def chainText (start : String) (op : Operation) (es : List String) : String :=
  start ++ String.join (es.map fun e => op.mark.text ++ inBrackets e)

section Texts

def enclosed (e : String) : List Token := .mark .leftBracket :: (inner e ++ [.mark .rightBracket])

def listing (es : List String) : List Token := [.mark .comma].intercalate (es.map enclosed)

def chaining (op : Operation) (es : List String) : List Token :=
  es.flatMap fun e => .mark op.mark :: enclosed e

theorem inner_closed (s : String) : inner (s ++ ")") = inner s ++ [.mark .rightBracket] := by
  have closed := inner_mark (m := .rightBracket) (by simp [Single]) (by decide) s ""
  rw [String.append_empty] at closed
  exact closed

theorem inner_opened (s t : String) :
    inner (s ++ "(" ++ t) = inner s ++ .mark .leftBracket :: inner t :=
  inner_mark (m := .leftBracket) (by simp [Single]) (by decide) s t

theorem inner_inBrackets (e : String) : inner (inBrackets e) = enclosed e := by
  have opened := inner_opened "" e
  rw [String.empty_append] at opened
  rw [inBrackets, inner_closed, opened]
  rfl

theorem listing_cons (e e' : String) (es : List String) :
    listing (e :: e' :: es) = enclosed e ++ .mark .comma :: listing (e' :: es) := by
  simp [listing]

theorem head_listing (e : String) (es : List String) :
    (listing (e :: es)).head? = some (.mark .leftBracket) := by
  cases es <;> rfl

theorem settled_listing {es : List String} (given : es ≠ []) (next : List Token) :
    Settled (listing es ++ next) := by
  cases es with
  | nil => exact absurd rfl given
  | cons e es => simp [Settled, List.head?_append, head_listing]

theorem inner_listing (es : List String) :
    inner (",".intercalate (es.map inBrackets)) = listing es := by
  induction es with
  | nil => rfl
  | cons e es ih =>
      cases es with
      | nil => simpa [listing] using inner_inBrackets e
      | cons e' es =>
          have cut := inner_mark (m := .comma) (by simp [Single]) (by decide) (inBrackets e)
            (",".intercalate ((e' :: es).map inBrackets))
          rw [ih, inner_inBrackets] at cut
          rw [List.map_cons, List.map_cons, String.intercalate_cons_cons]
          rw [listing_cons]
          exact cut

theorem inner_chain {op : Operation} (single : Single op.mark) (start : String)
    (es : List String) : inner (chainText start op es) = inner start ++ chaining op es := by
  induction es generalizing start with
  | nil => simp [chainText, chaining]
  | cons e es ih =>
      have visible := op.mark_ne (m := .space) rfl
      have parts : chainText start op (e :: es) =
          start ++ op.mark.text ++ chainText (inBrackets e) op es := by
        simp only [chainText, List.map_cons, String.join_cons, String.append_assoc]
      rw [parts, inner_mark single visible, ih, inner_inBrackets]
      rfl

theorem tokens_call {name : String} (word : inner name = [.word name]) (es : List String) :
    tokens (callText name es) =
      .word name :: .mark .leftBracket :: (listing es ++ [.mark .rightBracket]) := by
  have whole : inner (callText name es) =
      .word name :: .mark .leftBracket :: (listing es ++ [.mark .rightBracket]) := by
    rw [callText, inner_closed, inner_opened, word, inner_listing]
    rfl
  rw [tokens_eq_inner, whole]
  · simp [whole]
  · simp [whole, List.getLast?_cons]

theorem settled_chaining (op : Operation) (es : List String) : Settled (chaining op es) := by
  cases es with
  | nil => simp [Settled, chaining]
  | cons e es => simp [Settled, chaining, op.mark_ne (m := .space) rfl]

theorem stops_chaining (op : Operation) (es : List String) :
    Stops (op.tier + 1) (chaining op es) := by
  cases es with
  | nil => exact stops_nil _
  | cons e es => exact stops_operation op (Nat.lt_succ_self _) _

theorem tokens_chain {op : Operation} (single : Single op.mark) {start : String} {t : Tree}
    (read : inner start = t.yield) {es : List String} (given : es ≠ []) :
    tokens (chainText start op es) = t.yield ++ chaining op es := by
  have whole := inner_chain single start es
  rw [read] at whole
  rw [tokens_eq_inner, whole]
  · rw [whole]
    exact t.settled_yield (settled_chaining op es)
  · rcases List.eq_nil_or_concat es with none | ⟨es, e, rfl⟩
    · exact absurd none given
    · rw [whole, List.concat_eq_append]
      simp [chaining, enclosed, List.getLast?_cons]

end Texts

section Runs

variable {scope : Scope}

theorem skipSpaces_gap {gap : List Token} (blank : Gap gap) (ts : List Token) :
    skipSpaces (gap ++ ts) = skipSpaces ts := by
  induction gap with
  | nil => rfl
  | cons t gap ih =>
      obtain rfl := blank t (List.mem_cons_self ..)
      exact ih fun u mem => blank u (List.mem_cons_of_mem _ mem)

theorem Alone.gives_value {e : String} (alone : Alone scope e) :
    Gives (fun _ => False) (outcome scope e) [] ((whole ⟨scope, false⟩).run (tokens e)) := by
  have read := alone.read
  have suffix := shrinks_whole ⟨scope, false⟩ (tokens e)
  rw [outcome, outcome_ofTokens]
  rw [outcome_ofTokens, position_ofTokens] at read
  generalize (whole ⟨scope, false⟩).run (tokens e) = r at read suffix ⊢
  cases r with
  | error f us => exact .inr rfl
  | ok v us =>
      have early : ¬us ≠ [] := fun left =>
        Nat.ne_of_lt ((position_lt suffix).mpr left) (read v rfl)
      exact .inr ⟨rfl, Classical.not_not.mp early⟩

theorem Gives.extend {more : List Token} {e : Except Fault Value}
    (closed : ∀ m found, e ≠ .error (.unexpected m found))
    {r r' : EStateM.Result Fault (List Token) Value} (gives : Gives (fun _ => False) e [] r)
    (longer : Extends more r r') : Gives (fun _ => False) e (skipSpaces more) r' := by
  cases r with
  | ok v us =>
      rcases gives with ⟨⟨⟩⟩ | ⟨value, rfl⟩
      rw [longer, extended_nil]
      exact .inr ⟨value, rfl⟩
  | error f us =>
      rcases gives with ⟨⟨⟩⟩ | failed
      rcases longer with missed | rfl
      · cases f with
        | unexpected m found => exact absurd failed (closed m found)
        | _ => cases missed
      · exact .inr failed

theorem skipSpaces_inner (e : String) (next : List Token) :
    ∃ more, skipSpaces more = .mark .rightBracket :: next ∧
      skipSpaces (inner e ++ .mark .rightBracket :: next) = extended more (tokens e) := by
  rcases inner_eq e with ⟨front, back, blank, blank', split⟩
  have start : skipSpaces (tokens e) = tokens e := skipSpaces_settled (canonical_tokens e).start
  refine ⟨back ++ .mark .rightBracket :: next, ?_, ?_⟩
  · rw [skipSpaces_gap blank']
    exact skipSpaces_settled (by simp [Settled])
  · rw [split, List.append_assoc, skipSpaces_gap blank, List.append_assoc, skipSpaces_append,
      start]

theorem gives_inner {e : String} (alone : Alone scope e) (next : List Token) :
    Gives (fun _ => False) (outcome scope e) (.mark .rightBracket :: next)
      ((whole ⟨scope, false⟩).run (skipSpaces (inner e ++ .mark .rightBracket :: next))) := by
  rcases skipSpaces_inner e next with ⟨more, behind, split⟩
  have longer := extends_whole (by rw [behind]; rfl) scope (tokens e)
  rw [split, ← behind]
  exact alone.gives_value.extend alone.closed longer

theorem noted_alone (scope : Scope) :
    Noted (fun _ : List Token => False) ⟨scope, false⟩ := noted_default _ rfl

theorem gives_enclosed {e : String} (alone : Alone scope e) {next s : List Token}
    (settled : Settled next) (here : s = enclosed e ++ next) :
    Gives (fun _ => False) (outcome scope e) next ((rung ⟨scope, false⟩ 5).run s) := by
  have inside : advanced s = skipSpaces (inner e ++ .mark .rightBracket :: next) := by
    rw [here, enclosed, List.cons_append, List.append_assoc]
    rfl
  apply gives_bracket (noted_alone scope) (by rw [here]; rfl) settled
  rw [inside]
  exact gives_inner alone next

theorem gives_argument {e : String} (alone : Alone scope e) {m : Separator}
    (other : Operation.ofMark? m = none) (visible : m ≠ .space) {next s : List Token}
    (here : s = enclosed e ++ .mark m :: next) :
    Gives (fun _ => False) (outcome scope e) (.mark m :: next) ((whole ⟨scope, false⟩).run s) := by
  rw [← rung_zero]
  apply gives_below (noted_alone scope) (Nat.zero_le 5) (Nat.le_refl 5) _ (stops_mark 0 other next)
  exact gives_enclosed alone (by simpa [Settled] using visible) here

theorem gives_listing (admitsError : Nat → Bool) (e : String) (es : List String)
    (alone : ∀ e' ∈ e :: es, Alone scope e') (args : List Value) (refused : Option Value)
    {next s : List Token} (here : s = listing (e :: es) ++ .mark .rightBracket :: next) :
    Listed false (fun _ => False)
      (do
        let vs ← (e :: es).mapM (outcome scope)
        return .complete (args ++ vs) (refusedFrom admitsError args refused vs))
      (.mark .rightBracket :: next)
      ((argumentsOn (whole ⟨scope, false⟩) false admitsError args refused).run s) := by
  induction es generalizing e args refused s with
  | nil =>
      have only : s = enclosed e ++ .mark .rightBracket :: next := by simpa [listing] using here
      have first := gives_argument (alone e (List.mem_cons_self ..)) rfl (by decide) only
      simp only [List.mapM_cons, List.mapM_nil, bind_assoc, pure_bind]
      exact listed_last (noted_alone scope) false admitsError first
  | cons e' es ih =>
      have first := gives_argument (alone e (List.mem_cons_self ..)) (m := .comma) rfl
        (by decide) (here.trans (by rw [listing_cons, List.append_assoc, List.cons_append]))
      have settled := settled_listing (List.cons_ne_nil e' es) (.mark .rightBracket :: next)
      rw [List.mapM_cons, bind_assoc]
      apply listed_more (noted_alone scope) false admitsError settled first
      intro v u there
      have others := ih e' (fun u mem => alone u (List.mem_cons_of_mem _ mem)) (args ++ [v])
        (refusedAfter admitsError args refused v) there
      simpa [refusedFrom] using others

theorem gives_listed (admitsError : Nat → Bool) {es : List String} (given : es ≠ [])
    (alone : ∀ e ∈ es, Alone scope e) {next s : List Token}
    (here : s = listing es ++ .mark .rightBracket :: next) :
    Listed false (fun _ => False)
      (do
        let vs ← es.mapM (outcome scope)
        return .complete vs (refusedFrom admitsError [] none vs))
      (.mark .rightBracket :: next)
      ((listed (whole ⟨scope, false⟩) false admitsError).run s) := by
  cases es with
  | nil => exact absurd rfl given
  | cons e es =>
      rw [listed_eq, run_bind_ok (run_atMark _ s), if_neg (by simp [here, head_listing])]
      exact gives_listing admitsError e es alone [] none here

theorem gives_call_enclosed {name : String} (known : isName name = true) {es : List String}
    (given : es ≠ []) (alone : ∀ e ∈ es, Alone scope e) {s : List Token}
    (here : s = .word name :: .mark .leftBracket :: (listing es ++ [.mark .rightBracket])) :
    Gives (fun _ => False) (es.mapM (outcome scope) >>= Function.value name) []
      ((whole ⟨scope, false⟩).run s) := by
  have noted := noted_alone scope
  rw [← rung_zero]
  apply gives_below noted (Nat.zero_le 5) (Nat.le_refl 5) _ (stops_nil 0)
  have bracket : Settled (.mark .leftBracket :: (listing es ++ [.mark .rightBracket])) := by
    simp [Settled]
  have opened : advanced s = .mark .leftBracket :: (listing es ++ [.mark .rightBracket]) :=
    rest_behind (s := s) here bracket
  have inside : advanced (advanced s) = listing es ++ [.mark .rightBracket] :=
    rest_behind (s := advanced s) opened (settled_listing given _)
  rw [run_name known (by rw [here]; rfl), run_bind_ok (run_atMark _ _),
    if_pos (by rw [opened]; rfl)]
  apply gives_call_of_listed noted name (by simp [Settled])
  exact gives_listed (Function.admits name) given alone inside

theorem gives_chaining {op : Operation} (low : op.tier < 4) {es : List String}
    (alone : ∀ e ∈ es, Alone scope e) (v : Value) {s : List Token} (here : s = chaining op es) :
    Gives (fun _ => False) (es.foldlM (fun a e => do op.meet a (← outcome scope e)) v) []
      ((chainOn (rung ⟨scope, false⟩ (op.tier + 1)) (Operation.on op.tier) Operation.apply v).run
        s) := by
  have noted := noted_alone scope
  have shrinks : Shrinks (rung ⟨scope, false⟩ (op.tier + 1) : Cursor (List Token) Value) :=
    shrinks_rung ⟨scope, false⟩ (by omega)
  have keeps : Keeps (fun _ _ => False → False)
      (rung ⟨scope, false⟩ (op.tier + 1) : Cursor (List Token) Value) :=
    keeps_rung noted.course ⟨scope, false⟩ (by omega)
  induction es generalizing v s with
  | nil =>
      rw [here, chainOn_stop _ _ _ rfl]
      exact .inr ⟨rfl, rfl⟩
  | cons e es ih =>
      have found : (rest s).head?.bind (Operation.on op.tier) = some op := by
        rw [here]
        exact Operation.on_eq_some.mpr ⟨rfl, rfl⟩
      have settled : Settled (enclosed e ++ chaining op es) := by simp [Settled, enclosed]
      have behind : advanced s = enclosed e ++ chaining op es :=
        rest_behind (s := s) (t := .mark op.mark) here settled
      have operand := gives_enclosed (alone e (List.mem_cons_self ..)) (settled_chaining op es)
        behind
      -- One turn reads an operand and joins it to the value so far, like one step of the fold.
      rw [chainOn_step shrinks _ _ _ found, List.foldlM_cons, bind_assoc]
      apply (gives_below noted (by omega) (Nat.le_refl 5) operand (stops_chaining op es)).bind
      · intro vb
        exact keeps_bind noted.course (keeps_lift noted.course _)
          fun _ => keeps_chainOn noted.course keeps _ _ _
      · intro vb u _ there
        apply (gives_lift (join Operation.apply op v vb) u).bind
        · exact keeps_chainOn noted.course keeps _ _
        · intro w u' _ there'
          exact ih (fun e' mem => alone e' (List.mem_cons_of_mem _ mem)) w (there'.trans there)

theorem gives_chain_enclosed {op : Operation} (low : op.tier < 4) {t : Tree} {v : Value}
    (operand : t.tier = 5) (value : t.value scope = .ok v) {es : List String}
    (alone : ∀ e ∈ es, Alone scope e) (fits : t.Fits (chaining op es)) {s : List Token}
    (here : s = t.yield ++ chaining op es) :
    Gives (fun _ => False) (es.foldlM (fun a e => do op.meet a (← outcome scope e)) v) []
      ((whole ⟨scope, false⟩).run s) := by
  have noted := noted_alone scope
  have begins : es.foldlM (fun a e => do op.meet a (← outcome scope e)) v =
      (do es.foldlM (fun a e => do op.meet a (← outcome scope e)) (← t.value scope)) := by
    rw [value]
    rfl
  have chains := (reads_and_chains noted t).2 op.tier low (by omega)
  rw [← rung_zero, begins]
  apply gives_below noted (Nat.zero_le op.tier) (by omega) _ (stops_nil 0)
  apply chains _ (chaining op es) [] s fits (settled_chaining op es) (stops_chaining op es) here
  intro v u _ there
  exact gives_chaining low alone v there

theorem result_of_gives {e : String} {ts : List Token} {r : Except Fault Value}
    (read : tokens e = ts) (given : ts ≠ [])
    (gives : Gives (fun _ => False) r [] ((whole ⟨scope, false⟩).run ts)) :
    outcome scope e = r ∧ evaluate ⟨scope, false⟩ e = r.toOption.getD .valueError := by
  rw [outcome, outcome_ofTokens, evaluate_eq_verdict _ (read ▸ given), read]
  generalize (whole ⟨scope, false⟩).run ts = run at gives ⊢
  cases run with
  | ok v us =>
      rcases gives with ⟨⟨⟩⟩ | ⟨rfl, read⟩
      exact ⟨rfl, if_pos read⟩
  | error f us =>
      rcases gives with ⟨⟨⟩⟩ | rfl
      exact ⟨rfl, rfl⟩

end Runs

/-- What a function does to any number of arguments an operation does from a first operand on. -/
structure Repeats (name : String) (op : Operation) (start : String) (first : Tree) (v : Value) :
    Prop where
  word : inner name = [.word name]
  known : isName name = true
  value : ∀ {vs : List Value}, vs ≠ [] → Function.value name vs = vs.foldlM op.meet v
  single : Single op.mark
  low : op.tier < 4
  unordered : op.isOrder = false
  read : inner start = first.yield
  operand : first.tier = 5
  fits : ∀ next, first.Fits next
  begins : ∀ scope, first.value scope = .ok v

theorem repeats_concat : Repeats "CONCAT" .concat "\"\"" (.text []) (.string "") where
  word := by rfl
  known := by decide
  value := Function.value_concat
  single := by simp [Single, Operation.mark]
  low := by decide
  unordered := rfl
  read := by rfl
  operand := rfl
  fits next := by simp [Tree.Fits]
  begins _ := rfl

theorem repeats_prod : Repeats "PROD" (.multiply .times) "1" (.number "1") (.number 1.0) where
  word := by rfl
  known := by decide
  value := Function.value_prod
  single := by simp [Single, Operation.mark]
  low := by decide
  unordered := rfl
  read := by rfl
  operand := rfl
  fits next := by rfl
  begins _ := by rfl

theorem Repeats.same_result {name : String} {op : Operation} {start : String} {t : Tree} {v : Value}
    (repeats : Repeats name op start t v) {scope : Scope} {es : List String} (given : es ≠ [])
    (alone : ∀ e ∈ es, Alone scope e) :
    SameResult scope (callText name es) (chainText start op es) := by
  have call := tokens_call repeats.word es
  have chain := tokens_chain repeats.single repeats.read given
  generalize read : tokens (callText name es) = ts at call
  generalize read' : tokens (chainText start op es) = ts' at chain
  have left := gives_call_enclosed repeats.known given alone call
  have right := gives_chain_enclosed repeats.low repeats.operand (repeats.begins scope) alone
    (repeats.fits _) chain
  rw [Function.mapM_value (outcome scope) repeats.unordered repeats.value given] at left
  have longer : chaining op es ≠ [] := by
    cases es with
    | nil => exact absurd rfl given
    | cons e es => simp [chaining]
  rcases result_of_gives read (by simp [call]) left with ⟨outcome, value⟩
  rcases result_of_gives read' (by simp [chain, longer]) right with ⟨outcome', value'⟩
  exact ⟨outcome.trans outcome'.symm, value.trans value'.symm⟩

/-- `CONCAT` and `PROD` give what `&` and `*` give between the same operands, whichever of these are
errors and wherever one fails. -/
theorem variadic_calls_are_chains (scope : Scope) {es : List String} (given : es ≠ [])
    (alone : ∀ e ∈ es, Alone scope e) :
    SameResult scope (callText "CONCAT" es) (chainText "\"\"" .concat es) ∧
      SameResult scope (callText "PROD" es) (chainText "1" (.multiply .times) es) :=
  ⟨repeats_concat.same_result given alone, repeats_prod.same_result given alone⟩

theorem variadic_calls_are_chains_failing :
    (∀ e ∈ [" x ", "\"a\" < 1"], Alone [] e) ∧
      SameResult [] "CONCAT(( x ),(\"a\" < 1))" "\"\"&( x )&(\"a\" < 1)" ∧
      outcome [] "\"\"&( x )&(\"a\" < 1)" = .error .unordered := by
  have alone : ∀ e ∈ [" x ", "\"a\" < 1"], Alone [] e := by
    have unbound : Run.ofTokens ⟨[], false⟩ (tokens " x ") = ⟨.ok .nameError, 1⟩ := by rfl
    have unordered :
        (Run.ofTokens ⟨[], false⟩ (tokens "\"a\" < 1")).outcome = .error .unordered := by rfl
    intro e mem
    rcases List.mem_pair.mp mem with rfl | rfl
    · rw [Alone, unbound]
      exact ⟨by simp, fun _ _ => by rfl⟩
    · exact ⟨by simp [unordered], by simp [unordered]⟩
  exact ⟨alone, (variadic_calls_are_chains [] (by simp) alone).1, by rfl⟩

end Formulary
