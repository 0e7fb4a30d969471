import Formulary.Proofs.Reading.Verdict

set_option autoImplicit false

namespace Formulary

open Tape Rule Token

namespace Scope

def Lacks (scope : Scope) (x : String) : Prop := ∀ d, scope.lookup x = some d → d.isNull = true

def AgreeOn (scope scope' : Scope) (x : String) : Prop :=
  scope.lookup x = scope'.lookup x ∨ (scope.Lacks x ∧ scope'.Lacks x)

theorem read_of_lacks {scope : Scope} {x : String} (lacks : scope.Lacks x) :
    scope.read x = .ok .nameError := by
  rw [Scope.read]
  cases bound : scope.lookup x with
  | none => rfl
  | some d => exact if_pos (lacks d bound)

theorem read_congr {scope scope' : Scope} {x : String} (agree : scope.AgreeOn scope' x) :
    scope.read x = scope'.read x := by
  rcases agree with same | ⟨lacks, lacks'⟩
  · rw [Scope.read, Scope.read, same]
  · rw [read_of_lacks lacks, read_of_lacks lacks']

theorem lookup_append_other {extra : Scope} {x : String} (other : ∀ b ∈ extra, b.1 ≠ x)
    (scope : Scope) : (extra ++ scope).lookup x = scope.lookup x := by
  induction extra with
  | nil => rfl
  | cons b extra ih =>
      rcases b with ⟨n, d⟩
      have differs : (x == n) = false := by simpa using (other (n, d) (List.mem_cons_self ..)).symm
      rw [List.cons_append, List.lookup_cons, differs]
      exact ih fun b mem => other b (List.mem_cons_of_mem _ mem)

end Scope

/-- The names outside string literals with no bracket behind them; `quoted` says that a literal is
open. -/
def lookups : Bool → List Token → List String
  | _, [] => []
  | quoted, .mark m :: ts => lookups (if m = .quote then !quoted else quoted) ts
  | quoted, .word w :: ts =>
      if !quoted && isName w && (skipSpaces ts).head? != some (.mark .leftBracket) then
        w :: lookups quoted ts
      else lookups quoted ts

section Lookups

theorem lookups_cons_subset {t : Token} (unquoted : t ≠ .mark .quote) (quoted : Bool)
    (ts : List Token) : lookups quoted ts ⊆ lookups quoted (t :: ts) := by
  cases t with
  | mark m =>
      have other : m ≠ .quote := fun same => unquoted (same ▸ rfl)
      rw [lookups, if_neg other]
      exact List.Subset.refl _
  | word w =>
      rw [lookups]
      split
      · exact List.subset_cons_self _ _
      · exact List.Subset.refl _

@[simp] theorem lookups_skipSpaces (quoted : Bool) (ts : List Token) :
    lookups quoted (skipSpaces ts) = lookups quoted ts :=
  skipSpaces_invariant (p := lookups quoted) (fun _ => rfl) ts

theorem lookups_unquoted {content : List Token} (unquoted : .mark .quote ∉ content)
    (ts : List Token) : lookups true (content ++ ts) = lookups true ts := by
  induction content with
  | nil => rfl
  | cons t content ih =>
      simp only [List.mem_cons, not_or] at unquoted
      cases t with
      | mark m =>
          have other : m ≠ .quote := fun same => unquoted.1 (same ▸ rfl)
          rw [List.cons_append, lookups, if_neg other, ih unquoted.2]
      | word w =>
          rw [List.cons_append, lookups]
          exact ih unquoted.2

theorem lookups_quotation {content : List Token} (unquoted : .mark .quote ∉ content)
    (ts : List Token) :
    lookups false (.mark .quote :: (content ++ .mark .quote :: ts)) = lookups false ts := by
  change lookups true (content ++ .mark .quote :: ts) = lookups false ts
  rw [lookups_unquoted unquoted]
  rfl

theorem mem_lookups_word {w : String} {ts : List Token} (named : isName w = true)
    (unopened : (skipSpaces ts).head? ≠ some (.mark .leftBracket)) :
    w ∈ lookups false (.word w :: ts) := by
  rw [lookups, if_pos (by simp [named, unopened])]
  exact List.mem_cons_self ..

end Lookups

/-- One tape, whose names that are still to be looked up mean the same to both scopes. -/
def seeing (scope scope' : Scope) : Pairing (List Token) (List Token) where
  tapes us vs := us = vs ∧ ∀ x ∈ lookups false us, scope.AgreeOn scope' x
  faults f g := f = g

section Seeing

variable {scope scope' : Scope} {us vs : List Token}

theorem seeing_advance (paired : (seeing scope scope').tapes us vs) {t : Token}
    (head : us.head? = some t) (unquoted : t ≠ .mark .quote) :
    (seeing scope scope').tapes (advanced us) (advanced vs) := by
  rcases paired with ⟨rfl, agree⟩
  rcases List.head?_eq_some_iff.mp head with ⟨ts, rfl⟩
  refine ⟨rfl, fun x mem => agree x (lookups_cons_subset unquoted false ts ?_)⟩
  rwa [← lookups_skipSpaces]

theorem steady_seeing : (seeing scope scope').Steady where
  faults_refl _ := rfl
  empty paired empty := paired.1 ▸ empty
  head paired _ _ := by rw [paired.1]
  unexpected paired m := by rw [paired.1]; rfl
  advance paired _ _ quote head := seeing_advance paired head (by simpa using quote)
  opening paired head _ := seeing_advance paired head (by decide)
  cut paired := paired

theorem agree_quotation_seeing (paired : (seeing scope scope').tapes us vs)
    (head : us.head? = some (.mark .quote)) :
    (seeing scope scope').Agree ((quotation : Cursor (List Token) Value).run us)
      (quotation.run vs) := by
  rcases paired with ⟨rfl, agree⟩
  rcases List.head?_eq_some_iff.mp head with ⟨ts, rfl⟩
  by_cases closed : .mark .quote ∈ ts
  · rcases List.eq_append_cons_of_mem closed with ⟨content, ts, rfl, unquoted⟩
    have here : rest (.mark .quote :: (content ++ .mark .quote :: ts)) = _ := rfl
    rcases run_quotation_closed unquoted here with ⟨run, behind⟩
    have behind : advanced (closing _) = skipSpaces ts := behind
    rw [run, behind]
    refine ⟨rfl, rfl, fun x mem => agree x ?_⟩
    rwa [lookups_quotation unquoted, ← lookups_skipSpaces]
  · rcases run_quotation_open closed (s := .mark .quote :: ts) rfl with ⟨run, behind⟩
    have behind : closing (.mark .quote :: ts) = [] := behind
    rw [run, behind]
    exact ⟨rfl, rfl, nofun⟩

theorem lockstep_seeing (legacy : Bool) :
    (seeing scope scope').Lockstep (whole ⟨scope, legacy⟩) (whole ⟨scope', legacy⟩) := by
  apply lockstep_whole steady_seeing
  intro n h us vs paired
  have mode : (⟨scope, legacy⟩ : Setting).legacy = (⟨scope', legacy⟩ : Setting).legacy := rfl
  apply Pairing.agree_atom steady_seeing (shrinks_whole _) (shrinks_whole _) mode h paired
  · rw [paired.1.1]
  · exact fun t head unquoted => seeing_advance paired.1 head unquoted
  · exact agree_quotation_seeing paired.1
  · intro w head named
    rcases paired with ⟨⟨rfl, agree⟩, -⟩
    rcases List.head?_eq_some_iff.mp head with ⟨ts, rfl⟩
    exact ⟨.rfl, fun unopened => Scope.read_congr (agree w (mem_lookups_word named unopened))⟩

theorem eq_of_agree_seeing {α : Type} {r r' : EStateM.Result Fault (List Token) α}
    (agree : (seeing scope scope').Agree r r') : r = r' := by
  cases r <;> cases r' <;> simp_all [Pairing.Agree, seeing]

theorem ofTokens_congr (legacy : Bool) {ts : List Token}
    (agree : ∀ x ∈ lookups false ts, scope.AgreeOn scope' x) :
    Run.ofTokens ⟨scope, legacy⟩ ts = Run.ofTokens ⟨scope', legacy⟩ ts := by
  have same : (formula ⟨scope, legacy⟩ ts.length).run ts =
      (formula ⟨scope', legacy⟩ ts.length).run ts :=
    eq_of_agree_seeing (lockstep_seeing legacy ts ts ⟨rfl, agree⟩)
  rw [Run.ofTokens, Run.ofTokens, same]

end Seeing

theorem evaluate_congr {setting setting' : Setting} {e : String}
    (same : Run.ofTokens setting (tokens e) = Run.ofTokens setting' (tokens e)) :
    evaluate setting e = evaluate setting' e := by
  by_cases blank : tokens e = []
  · rw [evaluate_blank setting blank, evaluate_blank setting' blank]
  · rw [evaluate_eq_value blank, evaluate_eq_value blank, same]

/-- Two scopes that agree on the names looked up cannot be told apart, in either mode: the runs come
to the same value or the same fault at the same place. Bindings of other names, those of functions
that are called and of words in string literals among them, are never read. -/
theorem scopes_agree_on_lookups (scope scope' : Scope) (legacy : Bool) (e : String)
    (agree : ∀ x ∈ lookups false (tokens e), scope.AgreeOn scope' x) :
    Run.ofTokens ⟨scope, legacy⟩ (tokens e) = Run.ofTokens ⟨scope', legacy⟩ (tokens e) ∧
      evaluate ⟨scope, legacy⟩ e = evaluate ⟨scope', legacy⟩ e ∧
      ∀ extra : Scope, (∀ b ∈ extra, b.1 ∉ lookups false (tokens e)) →
        Run.ofTokens ⟨extra ++ scope, legacy⟩ (tokens e) =
            Run.ofTokens ⟨scope, legacy⟩ (tokens e) ∧
          evaluate ⟨extra ++ scope, legacy⟩ e = evaluate ⟨scope, legacy⟩ e := by
  have same := ofTokens_congr legacy agree
  refine ⟨same, evaluate_congr same, fun extra unread => ?_⟩
  have hidden : ∀ x ∈ lookups false (tokens e), (extra ++ scope).AgreeOn scope x := by
    intro x mem
    exact .inl (Scope.lookup_append_other (fun b given here => unread b given (here ▸ mem)) scope)
  have unchanged := ofTokens_congr legacy hidden
  exact ⟨unchanged, evaluate_congr unchanged⟩

theorem scopes_agree_on_lookups_legacy :
    let e := "Sum( x,true )&\"y z\"&(sum<NIL)&y (2"
    let scope : Scope := [("x", .integer 1), ("sum", .text "#"), ("NIL", .null)]
    let scope' : Scope := [("sum", .text "#"), ("y", .text "y"), ("x", .integer 1)]
    let extra : Scope := [("y", .path "p"), ("true", .integer 0), ("Sum", .null)]
    lookups false (tokens e) = ["x", "sum", "NIL"] ∧
      (∀ x ∈ lookups false (tokens e), scope.AgreeOn scope' x) ∧
      (∀ b ∈ extra, b.1 ∉ lookups false (tokens e)) ∧
      Run.ofTokens ⟨scope, true⟩ (tokens e) = Run.ofTokens ⟨scope', true⟩ (tokens e) ∧
      Run.ofTokens ⟨extra ++ scope, true⟩ (tokens e) = Run.ofTokens ⟨scope, true⟩ (tokens e) := by
  intro e scope scope' extra
  have names : lookups false (tokens e) = ["x", "sum", "NIL"] := by decide
  have agree : ∀ x ∈ lookups false (tokens e), scope.AgreeOn scope' x := by
    rw [names]
    intro x mem
    simp only [List.mem_cons, List.not_mem_nil, or_false] at mem
    rcases mem with rfl | rfl | rfl
    · exact .inl rfl
    · exact .inl rfl
    · refine .inr ⟨fun d bound => ?_, fun d bound => ?_⟩
      · cases bound
        rfl
      · cases bound
  have unread : ∀ b ∈ extra, b.1 ∉ lookups false (tokens e) := by
    rw [names]
    simp [extra]
  rcases scopes_agree_on_lookups scope scope' true e agree with ⟨same, -, hides⟩
  exact ⟨names, agree, unread, same, (hides extra unread).1⟩

end Formulary
