import Formulary.Proofs.Function.Results
import Formulary.Proofs.Grammar.Ladder
import Formulary.Proofs.Grammar.Operands
import Formulary.Proofs.Reading.Verdict
import Formulary.Proofs.Value.Assignment

set_option autoImplicit false

namespace Formulary

open Tape Rule Token

namespace Value

def codes : List String := ["#VALUE", "#TOKEN", "#NAME", "#DIV/0", "#NUM?"]

theorem isErrorText_of_codes : ∀ code ∈ codes, Slot.isErrorText code = true := by decide

end Value

theorem Operation.error_of_apply {op : Operation} {a b v : Value} (met : op.apply a b = .ok v)
    (wrong : v.isError = true) : v = .divisionError := by
  cases op with
  | compare c =>
      have truth : v.tag = .boolean := Function.tag_of_truth met
      rw [Value.isError_iff, truth] at wrong
      cases wrong
  | multiply o =>
      cases o with
      | times =>
          cases met
          cases wrong
      | divide =>
          simp only [apply, Operator.multiply] at met
          split at met
          · cases met
            rfl
          · rw [Value.isError_iff, Operator.tag_of_number met] at wrong
            cases wrong
  | add o => cases o <;> cases met <;> cases wrong
  | concat =>
      cases met
      cases wrong
  | power =>
      rw [Value.isError_iff, Operator.tag_of_number met] at wrong
      cases wrong

/-- A property of values that the rules hand on. It holds of everything but errors, of the errors
that the rules make, and of what the scope gives for the words of an expression. -/
structure Handed (scope : Scope) (ts : List Token) (V : Value → Prop) : Prop where
  sound : ∀ {v}, v.isError = false → V v
  made : ∀ {code}, code ∈ Value.codes → V (.error code)
  bound : ∀ {x v}, .word x ∈ ts → scope.read x = .ok v → V v

namespace Handed

variable {scope : Scope} {ts : List Token} {V : Value → Prop} (handed : Handed scope ts V)

include handed

theorem of_join {op : Operation} {a b v : Value} (left : V a) (right : V b)
    (met : join Operation.apply op a b = .ok v) : V v := by
  rw [Rule.join] at met
  split at met
  · cases met
    exact left
  · split at met
    · cases met
      exact right
    · cases wrong : v.isError with
      | false => exact handed.sound wrong
      | true =>
          rw [Operation.error_of_apply met wrong]
          exact handed.made (by decide)

theorem of_signed {v : Value} (o : Operator.Additive) (operand : V v) : V (Operator.signed o v) := by
  cases v with
  | error text => exact operand
  | number x => cases o <;> exact handed.sound rfl
  | string | boolean => exact handed.made (by decide)

theorem of_answer {name : String} {args : List Value} {refused : Option Value} {v : Value}
    (given : ∀ a ∈ args, V a) (held : ∀ a, refused = some a → V a)
    (answered : answer (Function.builtIn.find? name) args refused = .ok v) : V v := by
  cases known : Function.builtIn.find? name with
  | none =>
      rw [known] at answered
      cases answered
      exact handed.made (by decide)
  | some s =>
      rw [known] at answered
      cases refused with
      | some a =>
          cases answered
          exact held v rfl
      | none =>
          simp only [Rule.answer] at answered
          split at answered
          · cases answered
            exact handed.made (by decide)
          · cases wrong : v.isError with
            | false => exact handed.sound wrong
            | true =>
                rcases Function.error_of_body (Function.mem_of_find? known) answered wrong with
                  rfl | mem
                · exact handed.made (by decide)
                · exact given v mem

theorem of_literal (w : String) : V ((Numeral.literal? w).elim .numeralError .number) := by
  cases Numeral.literal? w with
  | none => exact handed.made (by decide)
  | some x => exact handed.sound rfl

end Handed

def Rule.Arguments.All (V : Value → Prop) : Arguments → Prop
  | .complete args refused => (∀ a ∈ args, V a) ∧ ∀ a, refused = some a → V a
  | .abandoned e => V e

section Runs

variable {σ : Type} [Tape σ] {setting : Setting} {ts : List Token} {V : Value → Prop}

def Yields (σ : Type) [Tape σ] (setting : Setting) (ts : List Token) (V : Value → Prop) (k n : Nat) :
    Prop :=
  ∀ (s u : σ) (v : Value), (rest s).length ≤ n → rest s ⊆ ts → (rung setting k).run s = .ok v u → V v

theorem rest_subset {α : Type} {m : Cursor σ α} (shrinks : Shrinks m) {s u : σ} {a : α}
    (run : m.run s = .ok a u) (inside : rest s ⊆ ts) : rest u ⊆ ts := by
  have suffix := shrinks s
  rw [run] at suffix
  exact List.Subset.trans suffix.subset inside

theorem advanced_subset {s : σ} (inside : rest s ⊆ ts) : rest (advanced s) ⊆ ts := by
  rw [rest_advanced]
  exact List.Subset.trans (skipSpaces_tail_suffix (rest s)).subset inside

theorem word_mem {s : σ} {w : String} (head : (rest s).head? = some (.word w))
    (inside : rest s ⊆ ts) : .word w ∈ ts := inside (List.mem_of_head? head)

variable (handed : Handed setting.scope ts V) {n : Nat}

section Tiers

include handed

theorem yields_chain {k : Nat} (low : k < 4) (operand : Yields σ setting ts V (k + 1) n) :
    Yields σ setting ts V k n := by
  intro s u v bound inside run
  have shrinks : Shrinks (rung setting (k + 1) : Cursor σ Value) := shrinks_rung setting (by omega)
  rw [rung_tier setting low, tier_eq] at run
  rcases run_bind_eq_ok run with ⟨a, t, first, run⟩
  have bound' := shrinks.length_le first
  have start : V a ∧ (rest t).length ≤ n ∧ rest t ⊆ ts :=
    ⟨operand _ _ _ bound inside first, by omega, rest_subset shrinks first inside⟩
  refine (chainOn_invariant shrinks _ _
    (motive := fun v u => V v ∧ (rest u).length ≤ n ∧ rest u ⊆ ts) ?_ start run).1
  intro op a t b w c found before second met
  rcases before with ⟨left, bound, inside⟩
  rcases Option.bind_eq_some_iff.mp found with ⟨token, head, -⟩
  have shorter := advanced_shorter head
  have bound' := shrinks.length_le second
  have inside' := advanced_subset inside
  have right := operand _ _ _ (by omega) inside' second
  exact ⟨handed.of_join left right met, by omega, rest_subset shrinks second inside'⟩

theorem yields_power (operand : Yields σ setting ts V 5 n)
    (below : ∀ m < n, Yields σ setting ts V 4 m) : Yields σ setting ts V 4 n := by
  intro s u v bound inside run
  have shrinks : Shrinks (rung setting 5 : Cursor σ Value) := shrinks_rung setting (by decide)
  rw [rung_four, power_eq shrinks] at run
  rcases run_bind_eq_ok run with ⟨a, t, first, run⟩
  have bound' := shrinks.length_le first
  have inside' := rest_subset shrinks first inside
  have base := operand _ _ _ bound inside first
  by_cases caret : (rest t).head? = some (.mark .caret)
  · have shorter := advanced_shorter caret
    rw [powerAfter_step _ _ caret, ← rung_four] at run
    rcases run_bind_eq_ok run with ⟨b, w, second, lifted⟩
    rcases run_lift_eq_ok lifted with ⟨met, rfl⟩
    have exponent := below (rest (advanced t)).length (by omega) _ _ _ (Nat.le_refl _)
      (advanced_subset inside') second
    have raised : join Operation.apply .power a b = .ok v := met
    exact handed.of_join base exponent raised
  · rw [powerAfter_stop _ _ caret] at run
    cases run
    exact base

end Tiers

section Arguments

variable (inner : Yields σ setting ts V 0 n)

include inner

theorem all_argumentsOn (legacy : Bool) (admitsError : Nat → Bool) {args : List Value}
    {refused : Option Value} (before : (Arguments.complete args refused).All V) {s u : σ}
    {given : Arguments}
    (run : (argumentsOn (whole setting) legacy admitsError args refused).run s = .ok given u)
    (bound : (rest s).length ≤ n) (inside : rest s ⊆ ts) : given.All V := by
  induction hm : (rest s).length using Nat.strongRecOn generalizing args refused s with
  | ind m ih =>
    rw [argumentsOn_eq (shrinks_whole setting)] at run
    rcases run_bind_eq_ok run with ⟨v, t, first, run⟩
    have bound' := (shrinks_whole setting).length_le first
    have inside' := rest_subset (shrinks_whole setting) first inside
    rw [← rung_zero] at first
    have argument := inner _ _ _ bound inside first
    have after : (Arguments.complete (args ++ [v]) (refusedAfter admitsError args refused v)).All
        V := by
      refine ⟨fun a mem => ?_, fun a held => ?_⟩
      · rcases List.mem_append.mp mem with mem | mem
        · exact before.1 a mem
        · rwa [List.mem_singleton.mp mem]
      · rw [refusedAfter] at held
        split at held
        · cases held
          exact argument
        · exact before.2 a held
    rw [argumentsAfter] at run
    split at run
    · cases run
      exact argument
    · rw [run_bind_ok (run_atMark _ t)] at run
      by_cases comma : (rest t).head? = some (.mark .comma)
      · have shorter := advanced_shorter comma
        rw [if_pos (by simpa using comma), run_bind_ok (run_advance t)] at run
        exact ih _ (by omega) after run (by omega) (advanced_subset inside') rfl
      · rw [if_neg (by simpa using comma)] at run
        cases run
        exact after

theorem all_listed (legacy : Bool) (admitsError : Nat → Bool) {s u : σ} {given : Arguments}
    (run : (listed (whole setting) legacy admitsError).run s = .ok given u)
    (bound : (rest s).length ≤ n) (inside : rest s ⊆ ts) : given.All V := by
  have empty : (Arguments.complete [] none).All V := ⟨nofun, nofun⟩
  rw [listed_eq, run_bind_ok (run_atMark _ _)] at run
  split at run
  · cases run
    exact empty
  · exact all_argumentsOn inner legacy admitsError empty run bound inside

include handed

theorem yields_called {name : String} {s u : σ} {v : Value}
    (called : Called setting (whole setting) name s v u) (bound : (rest (advanced s)).length ≤ n)
    (inside : rest s ⊆ ts) : V v := by
  cases called with
  | unknown legacy => exact handed.made (by decide)
  | abandoned run => exact all_listed inner _ _ run bound (advanced_subset inside)
  | complete run closed answered =>
      rcases all_listed inner _ _ run bound (advanced_subset inside) with ⟨given, held⟩
      exact handed.of_answer given held answered

end Arguments

include handed

theorem yields_operand (below : ∀ m < n, ∀ k ≤ 5, Yields σ setting ts V k m) {s u : σ} {v : Value}
    (operand : Operand setting (whole setting) s v u) (bound : (rest s).length ≤ n)
    (inside : rest s ⊆ ts) : V v := by
  have behind := advanced_subset inside
  have less {t : Token} (head : (rest s).head? = some t) (k : Nat) (le : k ≤ 5) :
      Yields σ setting ts V k (rest (advanced s)).length :=
    below _ (Nat.lt_of_lt_of_le (advanced_shorter head) bound) k le
  cases operand with
  | missing => exact handed.made (by decide)
  | number => exact handed.of_literal _
  | keyword | text => exact handed.sound rfl
  | name head _ _ read => exact handed.bound (word_mem head inside) read
  | sign head run =>
      rw [← rung_five] at run
      exact handed.of_signed _ (less head 5 (Nat.le_refl 5) _ _ _ (Nat.le_refl _) behind run)
  | bracket opened run =>
      rw [← rung_zero] at run
      exact less opened 0 (Nat.zero_le 5) _ _ _ (Nat.le_refl _) behind run
  | call head _ opened called =>
      have shorter := advanced_shorter opened
      exact yields_called handed (less head 0 (Nat.zero_le 5)) called (by omega) behind

theorem yields_rung (n k : Nat) (le : k ≤ 5) : Yields σ setting ts V k n := by
  apply rung_induction (motive := Yields σ setting ts V) _ _ _ n k le
  · intro n below s u v bound inside run
    rw [rung_five] at run
    exact yields_operand handed below (operand_of_run run) bound inside
  · exact fun n below five => yields_power handed five below
  · exact fun n k low above => yields_chain handed low above

theorem handed_evaluate {e : String} (read : tokens e = ts) : V (evaluate setting e) := by
  by_cases blank : tokens e = []
  · rw [evaluate_blank setting blank]
    exact handed.sound rfl
  · rw [evaluate_eq_verdict setting blank]
    cases run : (whole setting).run (tokens e) with
    | error f us => exact handed.made (by decide)
    | ok v us =>
        rw [verdict]
        split
        · rw [← rung_zero] at run
          exact yields_rung handed (tokens e).length 0 (Nat.zero_le 5) _ _ _ (Nat.le_refl _)
            (read ▸ List.Subset.refl _) run
        · exact handed.made (by decide)

end Runs

/-- An error is made by some rule, or a name among the tokens is bound to it. -/
def Originates (scope : Scope) (ts : List Token) (v : Value) : Prop :=
  ∀ text, v = .error text →
    text ∈ Value.codes ∨ ∃ x, .word x ∈ ts ∧ scope.lookup x = some (.value (.error text))

theorem Scope.error_of_read {scope : Scope} {x text : String}
    (read : scope.read x = .ok (.error text)) :
    text = "#NAME" ∨ scope.lookup x = some (.value (.error text)) := by
  rw [Scope.read] at read
  cases bound : scope.lookup x with
  | none =>
      rw [bound] at read
      cases read
      exact .inl rfl
  | some d =>
      rw [bound] at read
      dsimp only at read
      split at read
      · cases read
        exact .inl rfl
      · cases d with
        | value v =>
            cases read
            exact .inr rfl
        | scalar s =>
            cases s with
            | integer n =>
                simp only [Datum.toValue] at read
                split at read <;> cases read
            | _ => cases read
        | _ => cases read

theorem handed_originates (scope : Scope) (ts : List Token) :
    Handed scope ts (Originates scope ts) where
  sound := by
    rintro v sound text rfl
    cases sound
  made mem text same := by
    cases same
    exact .inl mem
  bound := by
    rintro x v mem read text rfl
    rcases Scope.error_of_read read with rfl | bound
    · exact .inl (by decide)
    · exact .inr ⟨x, mem, bound⟩

theorem sound_of_isErrorText {text : String} (canonical : Slot.isErrorText text = true) :
    (Slot.ofValue (.error text)).Sound := by
  rcases Slot.isErrorText_iff.mp canonical with ⟨code, capital, rfl⟩
  exact .error capital

/-- In either mode an error that comes out was made by the evaluation, with one of five codes, or a
name of the expression is bound to it. Where the scope holds proper values only, a proper value comes
out. -/
theorem errors_have_origins {scope : Scope}
    (proper : ∀ x v, scope.lookup x = some (.value v) → (Slot.ofValue v).Sound) (legacy : Bool)
    (e : String) :
    (∀ text, evaluate ⟨scope, legacy⟩ e = .error text →
      text ∈ ["#VALUE", "#TOKEN", "#NAME", "#DIV/0", "#NUM?"] ∨
        ∃ x, .word x ∈ tokens e ∧ scope.lookup x = some (.value (.error text))) ∧
      (Slot.ofValue (evaluate ⟨scope, legacy⟩ e)).Sound := by
  have origin : Originates scope (tokens e) (evaluate ⟨scope, legacy⟩ e) :=
    handed_evaluate (handed_originates scope (tokens e)) rfl
  refine ⟨origin, ?_⟩
  cases result : evaluate ⟨scope, legacy⟩ e with
  | number x => exact .number x
  | string s => exact .string s
  | boolean b => exact .boolean b
  | error text =>
      rcases origin text result with mem | ⟨x, -, bound⟩
      · exact sound_of_isErrorText (Value.isErrorText_of_codes text mem)
      · exact proper x _ bound

theorem errors_have_origins_bound :
    let scope : Scope := [("limit", .value (.error "#LIMIT")), ("n", .null)]
    (∀ x v, scope.lookup x = some (.value v) → (Slot.ofValue v).Sound) ∧
      evaluate ⟨scope, false⟩ "2*iferror(n, -limit)" = .error "#LIMIT" ∧
      ∃ x, .word x ∈ tokens "2*iferror(n, -limit)" ∧
        scope.lookup x = some (.value (.error "#LIMIT")) := by
  intro scope
  have proper : ∀ x v, scope.lookup x = some (.value v) → (Slot.ofValue v).Sound := by
    intro x v bound
    simp only [scope, List.lookup_cons, List.lookup_nil] at bound
    split at bound
    · cases bound
      exact sound_of_isErrorText (by decide)
    · split at bound <;> cases bound
  have result : evaluate ⟨scope, false⟩ "2*iferror(n, -limit)" = .error "#LIMIT" := by rfl
  rcases (errors_have_origins proper false _).1 "#LIMIT" result with made | bound
  · simp at made
  · exact ⟨proper, result, bound⟩

end Formulary
