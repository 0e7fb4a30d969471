import Formulary.Proofs.Grammar.Tiers

set_option autoImplicit false

namespace Formulary

open Tape Rule Token

def refusedFrom (admitsError : Nat → Bool) :
    List Value → Option Value → List Value → Option Value
  | _, refused, [] => refused
  | args, refused, v :: vs =>
      refusedFrom admitsError (args ++ [v]) (refusedAfter admitsError args refused v) vs

theorem refusedFrom_some (admitsError : Nat → Bool) (args : List Value) (e : Value)
    (vs : List Value) : refusedFrom admitsError args (some e) vs = some e := by
  induction vs generalizing args with
  | nil => rfl
  | cons v vs ih => simpa [refusedFrom, refusedAfter] using ih (args ++ [v])

theorem refusedFrom_none (admitsError : Nat → Bool) (args vs : List Value) :
    refusedFrom admitsError args none vs =
      ((vs.zipIdx args.length).find? fun (v, position) =>
        v.isError && !admitsError position).map Prod.fst := by
  induction vs generalizing args with
  | nil => rfl
  | cons v vs ih =>
      rw [refusedFrom, List.zipIdx_cons, List.find?_cons]
      by_cases now : (v.isError && !admitsError args.length) = true
      · simp [refusedAfter, now, refusedFrom_some]
      · simp [refusedAfter, now, ih]

theorem answer_refused? (s : Signature) (args : List Value) :
    answer (some s) args (s.refused? args) = s.value args := by
  rw [Signature.value]
  cases s.refused? args <;> rfl

theorem answer_eq (name : String) (args : List Value) :
    answer (Function.builtIn.find? name) args (refusedFrom (Function.admits name) [] none args) =
      Function.value name args := by
  unfold Function.value Function.admits
  cases Function.builtIn.find? name with
  | none => rfl
  | some s =>
      rw [refusedFrom_none]
      exact answer_refused? s args

variable {σ : Type} [Tape σ] {Cut : σ → Prop} {setting : Setting} (noted : Noted Cut setting)

def Arguments.value (signature? : Option Signature) : Arguments → Except Fault Value
  | .abandoned e => .ok e
  | .complete args refused => answer signature? args refused

def Listed (legacy : Bool) (Cut : σ → Prop) (e : Except Fault Arguments) (next : List Token)
    (r : EStateM.Result Fault σ Arguments) : Prop :=
  (legacy = true ∧ ∃ v u, r = .ok (.abandoned v) u) ∨ Gives Cut e next r

section Lists

variable (legacy : Bool) (admitsError : Nat → Bool)

include noted in
theorem listed_argument {args : List Value} {refused : Option Value} {e : Except Fault Value}
    {g : Value → Except Fault Arguments} {next next' : List Token} {s : σ}
    (first : Gives Cut e next ((whole setting).run s))
    (after : ∀ v u, rest u = next → Listed legacy Cut (g v) next'
      ((argumentsAfter (whole setting) legacy admitsError args refused v).run u)) :
    Listed legacy Cut (e >>= g) next'
      ((argumentsOn (whole setting) legacy admitsError args refused).run s) := by
  rw [argumentsOn_eq (shrinks_whole setting)]
  cases run : (whole setting).run s with
  | error f u =>
      rw [run] at first
      rw [run_bind_error run]
      obtain cut | rfl := first
      · exact .inr (.inl cut)
      · exact .inr (.inr rfl)
  | ok v u =>
      rw [run] at first
      rw [run_bind_ok run]
      obtain cut | ⟨rfl, there⟩ := first
      · have keeps := keeps_argumentsAfter legacy admitsError noted.course
          (keeps_whole noted.course setting) args refused v
        exact .inr (gives_cut (keeps u cut))
      · exact after v u there

include noted in
theorem listed_last {args : List Value} {refused : Option Value} {e : Except Fault Value}
    {next : List Token} {s : σ}
    (first : Gives Cut e (.mark .rightBracket :: next) ((whole setting).run s)) :
    Listed legacy Cut
      (do
        let v ← e
        return .complete (args ++ [v]) (refusedAfter admitsError args refused v))
      (.mark .rightBracket :: next)
      ((argumentsOn (whole setting) legacy admitsError args refused).run s) := by
  apply listed_argument noted legacy admitsError first
  intro v u there
  unfold argumentsAfter
  split
  · rename_i refusal
    exact .inl ⟨(Bool.and_eq_true_iff.mp refusal).2, v, u, rfl⟩
  · rw [run_bind_ok (run_atMark _ u), there]
    exact .inr (.inr ⟨rfl, there⟩)

include noted in
theorem listed_more {args : List Value} {refused : Option Value} {e : Except Fault Value}
    {g : Value → Except Fault Arguments} {next next' : List Token} {s : σ} (settled : Settled next)
    (first : Gives Cut e (.mark .comma :: next) ((whole setting).run s))
    (others : ∀ v u, rest u = next → Listed legacy Cut (g v) next'
      ((argumentsOn (whole setting) legacy admitsError (args ++ [v])
        (refusedAfter admitsError args refused v)).run u)) :
    Listed legacy Cut (e >>= g) next'
      ((argumentsOn (whole setting) legacy admitsError args refused).run s) := by
  apply listed_argument noted legacy admitsError first
  intro v u there
  unfold argumentsAfter
  split
  · rename_i refusal
    exact .inl ⟨(Bool.and_eq_true_iff.mp refusal).2, v, u, rfl⟩
  · have behind : rest (advanced u) = next := by
      rw [rest_advanced, there, List.tail_cons, skipSpaces_settled settled]
    rw [run_bind_ok (run_atMark _ u), if_pos (by simp [there]), run_bind_ok (run_advance u)]
    exact others v (advanced u) behind

include noted in
theorem listed_argumentsOn (t : Tree) (ts : List Tree)
    (reads : ∀ u ∈ t :: ts, Reads Cut setting 0 u) (args : List Value) (refused : Option Value)
    {next : List Token} {s : σ} (fits : Tree.FitAll (t :: ts) (.mark .rightBracket :: next))
    (here : rest s = Tree.yieldAll (t :: ts) ++ .mark .rightBracket :: next) :
    Listed legacy Cut
      (do
        let vs ← Tree.values setting.scope (t :: ts)
        return .complete (args ++ vs) (refusedFrom admitsError args refused vs))
      (.mark .rightBracket :: next)
      ((argumentsOn (whole setting) legacy admitsError args refused).run s) := by
  induction ts generalizing t args refused s with
  | nil =>
      have first := reads t (List.mem_cons_self ..) _ s fits (by simp [Settled])
        (stops_mark 0 rfl _) here
      rw [rung_zero] at first
      simp only [Tree.values, bind_assoc, pure_bind]
      exact listed_last noted legacy admitsError first
  | cons t' ts ih =>
      obtain ⟨fitsFirst, fitsOthers⟩ := fits
      have first := reads t (List.mem_cons_self ..) _ s fitsFirst (by simp [Settled])
        (stops_mark 0 rfl _) (by rw [here, Tree.yieldAll, List.append_assoc, List.cons_append])
      rw [rung_zero] at first
      have settled : Settled (Tree.yieldAll (t' :: ts) ++ .mark .rightBracket :: next) :=
        Tree.settled_yieldAll t' ts (by simp [Settled])
      rw [Tree.values, bind_assoc]
      apply listed_more noted legacy admitsError settled first
      intro v u there
      have others := ih t' (fun u mem => reads u (List.mem_cons_of_mem _ mem)) (args ++ [v])
        (refusedAfter admitsError args refused v) fitsOthers there
      simpa [refusedFrom] using others

include noted in
theorem listed_listed (ts : List Tree) (reads : ∀ u ∈ ts, Reads Cut setting 0 u)
    {next : List Token} {s : σ} (given : ts ≠ [.missing])
    (fits : Tree.FitAll ts (.mark .rightBracket :: next))
    (here : rest s = Tree.yieldAll ts ++ .mark .rightBracket :: next) :
    Listed legacy Cut
      (do
        let vs ← Tree.values setting.scope ts
        return .complete vs (refusedFrom admitsError [] none vs))
      (.mark .rightBracket :: next) ((listed (whole setting) legacy admitsError).run s) := by
  rw [listed_eq, run_bind_ok (run_atMark _ s)]
  cases ts with
  | nil =>
      rw [here, if_pos (by rfl)]
      exact .inr (.inr ⟨rfl, here⟩)
  | cons t ts =>
      have opened := Tree.yieldAll_ne_right given (.mark .rightBracket :: next)
      rw [here, if_neg (by rwa [beq_iff_eq])]
      exact listed_argumentsOn noted legacy admitsError t ts reads [] none fits here

end Lists

include noted in
theorem gives_call_of_listed (name : String) {values : Except Fault (List Value)}
    {next : List Token} {s : σ} (settled : Settled next)
    (arguments : Listed setting.legacy Cut
      (do
        let vs ← values
        return .complete vs (refusedFrom (Function.admits name) [] none vs))
      (.mark .rightBracket :: next)
      ((listed (whole setting) setting.legacy (Function.admits name)).run (advanced s))) :
    Gives Cut (values >>= Function.value name) next
      ((call setting.legacy (whole setting) name).run s) := by
  rw [call_eq]
  split
  · rename_i surfaces
    exact .inl (noted.cut (Bool.and_eq_true_iff.mp surfaces).2 s)
  · rw [run_bind_ok (run_advance s)]
    obtain ⟨legacy, v, u, run⟩ | complete := arguments
    · rw [run_bind_ok run]
      exact .inl (noted.cut legacy u)
    · have value : (values >>= Function.value name) =
          (do
            let vs ← values
            return Arguments.complete vs (refusedFrom (Function.admits name) [] none vs)) >>=
          Arguments.value (Function.builtIn.find? name) := by
        simp only [bind_assoc, pure_bind, Arguments.value, answer_eq]
      rw [value]
      apply complete.bind
      · intro given
        cases given with
        | abandoned e => exact keeps_surface noted.course e
        | complete args refused =>
            exact keeps_bind noted.course (keeps_expect noted.course _)
              fun _ => keeps_lift noted.course _
      · intro given u found there
        cases given with
        | abandoned e =>
            -- Only a legacy run gives a call up, and that case is behind us.
            exfalso
            cases values with
            | error f => cases found
            | ok vs => cases found
        | complete args refused =>
            change Gives Cut ((.ok () : Except Fault Unit) >>= fun _ =>
              answer (Function.builtIn.find? name) args refused) next _
            apply (gives_expect Cut .rightBracket there settled).bind
            · exact fun _ => keeps_lift noted.course _
            · rintro _ w _ rfl
              exact gives_lift _ w

include noted in
theorem gives_call (name : String) (ts : List Tree) (reads : ∀ u ∈ ts, Reads Cut setting 0 u)
    {next : List Token} {s : σ} (given : ts ≠ [.missing])
    (fits : Tree.FitAll ts (.mark .rightBracket :: next)) (settled : Settled next)
    (here : rest s = .mark .leftBracket :: (Tree.yieldAll ts ++ .mark .rightBracket :: next)) :
    Gives Cut ((Tree.values setting.scope ts) >>= Function.value name) next
      ((call setting.legacy (whole setting) name).run s) := by
  have behind : rest (advanced s) = Tree.yieldAll ts ++ .mark .rightBracket :: next := by
    have inside : Settled (Tree.yieldAll ts ++ .mark .rightBracket :: next) := by
      cases ts with
      | nil => simp [Settled, Tree.yieldAll]
      | cons t ts => exact Tree.settled_yieldAll t ts (by simp [Settled])
    rw [rest_advanced, here, List.tail_cons, skipSpaces_settled inside]
  exact gives_call_of_listed noted name settled
    (listed_listed noted setting.legacy (Function.admits name) ts reads given fits behind)

end Formulary
