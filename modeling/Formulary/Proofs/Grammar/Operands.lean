import Formulary.Proofs.Grammar.Tree
import Formulary.Proofs.Reading.Turns

set_option autoImplicit false

namespace Formulary.Rule

open Tape Token

variable {σ : Type} [Tape σ]

section Operands

variable (setting : Setting) (inner : Cursor σ Value)

/-- What a call may come to without a fault. Only the last kind reads up to its own bracket. -/
inductive Called (name : String) (s : σ) : Value → σ → Prop where
  | unknown (legacy : setting.legacy = true) : Called name s .nameError (Tape.cut s)
  | abandoned {e : Value} {t : σ} (run : (listed inner setting.legacy
      (Function.admits name)).run (advanced s) = .ok (.abandoned e) t) :
      Called name s e (Tape.cut t)
  | complete {args : List Value} {refused : Option Value} {t : σ} {v : Value}
      (run : (listed inner setting.legacy (Function.admits name)).run (advanced s) =
        .ok (.complete args refused) t)
      (closed : (rest t).head? = some (.mark .rightBracket))
      (answered : answer (Function.builtIn.find? name) args refused = .ok v) :
      Called name s v (advanced t)

/-- What a factor may come to without a fault, a case for each kind of operand. -/
inductive Operand (s : σ) : Value → σ → Prop where
  | missing (idle : ∀ t, (rest s).head? = some t → t.startsOperand = false) :
      Operand s .tokenError s
  | number {w : String} (head : (rest s).head? = some (.word w))
      (starts : startsNumber w = true) :
      Operand s ((Numeral.literal? w).elim .numeralError .number) (advanced s)
  | keyword {w : String} {b : Bool} (head : (rest s).head? = some (.word w))
      (starts : startsNumber w = false) (truth : boolean? w = some b) :
      Operand s (.boolean b) (advanced s)
  | text {content ts : List Token} (unquoted : .mark .quote ∉ content)
      (here : rest s = .mark .quote :: (content ++ .mark .quote :: ts)) :
      Operand s (.string (String.join (content.map Token.text))) (advanced (closing s))
  | name {x : String} {v : Value} (head : (rest s).head? = some (.word x))
      (named : isName x = true)
      (unopened : (rest (advanced s)).head? ≠ some (.mark .leftBracket))
      (read : setting.scope.read x = .ok v) : Operand s v (advanced s)
  | sign {o : Operator.Additive} {v : Value} {t : σ} (head : (rest s).head? = some (.mark o.mark))
      (run : (factor (atom setting inner)).run (advanced s) = .ok v t) :
      Operand s (Operator.signed o v) t
  | bracket {v : Value} {t : σ} (opened : (rest s).head? = some (.mark .leftBracket))
      (run : inner.run (advanced s) = .ok v t)
      (closed : (rest t).head? = some (.mark .rightBracket)) : Operand s v (advanced t)
  | call {name : String} {v : Value} {u : σ} (head : (rest s).head? = some (.word name))
      (named : isName name = true)
      (opened : (rest (advanced s)).head? = some (.mark .leftBracket))
      (called : Called setting inner name (advanced s) v u) : Operand s v u

variable {setting inner} {s u : σ} {v : Value}

theorem called_of_run {name : String}
    (run : (call setting.legacy inner name).run s = .ok v u) :
    Called setting inner name s v u := by
  rw [call_eq] at run
  split at run
  · rename_i unknown
    cases run
    exact .unknown (Bool.and_eq_true_iff.mp unknown).2
  · rw [run_bind_ok (run_advance s)] at run
    obtain ⟨given, t, first, run⟩ := run_bind_eq_ok run
    cases given with
    | abandoned e =>
        cases run
        exact .abandoned first
    | complete args refused =>
        obtain ⟨_, t', closed, run⟩ := run_bind_eq_ok run
        obtain ⟨right, rfl⟩ := run_expect_eq_ok closed
        obtain ⟨answered, rfl⟩ := run_lift_eq_ok run
        exact .complete first right answered

theorem operand_of_word {w : String} (head : (rest s).head? = some (.word w))
    (run : (word setting inner w).run s = .ok v u) : Operand setting inner s v u := by
  unfold word at run
  by_cases starts : startsNumber w = true
  · rw [if_pos starts, run_bind_ok (run_advance s), numeral_eq] at run
    cases run
    exact .number head starts
  rw [if_neg starts] at run
  rw [Bool.not_eq_true] at starts
  cases truth : boolean? w with
  | some b =>
      rw [truth] at run
      dsimp only at run
      rw [run_bind_ok (run_advance s)] at run
      cases run
      exact .keyword head starts truth
  | none =>
      rw [truth] at run
      dsimp only at run
      by_cases start : hasNameStart w = true
      · have named : isName w = true := by simp [isName, isKeyword, starts, truth, start]
        rw [if_pos start, identifier, run_bind_ok (run_advance s),
          run_bind_ok (run_atMark _ _)] at run
        by_cases opened : (rest (advanced s)).head? = some (.mark .leftBracket)
        · rw [if_pos (by simpa using opened)] at run
          exact .call head named opened (called_of_run run)
        · rw [if_neg (by simpa using opened)] at run
          obtain ⟨read, rfl⟩ := run_lift_eq_ok run
          exact .name head named opened read
      · rw [if_neg start] at run
        cases run
        rw [Bool.not_eq_true] at start
        refine .missing fun t found => ?_
        rw [head] at found
        cases found
        simp [startsOperand, isKeyword, starts, truth, start]

theorem operand_of_quotation (head : (rest s).head? = some (.mark .quote))
    (run : (quotation : Cursor σ Value).run s = .ok v u) : Operand setting inner s v u := by
  obtain ⟨ts, here⟩ := List.head?_eq_some_iff.mp head
  by_cases closed : .mark .quote ∈ ts
  · obtain ⟨content, ts, rfl, unquoted⟩ := List.eq_append_cons_of_mem closed
    rw [(run_quotation_closed unquoted here).1] at run
    cases run
    exact .text unquoted here
  · rw [(run_quotation_open closed here).1] at run
    cases run

theorem operand_of_atom (unsigned : (rest s).head?.bind Operator.additive? = none)
    (run : (atom setting inner).run s = .ok v u) : Operand setting inner s v u := by
  rw [atom, run_bind_ok (run_peek s)] at run
  cases head : (rest s).head? with
  | none =>
      rw [head] at run
      cases run
      exact .missing (by simp [head])
  | some t =>
      rw [head] at run unsigned
      cases t with
      | word w => exact operand_of_word head run
      | mark m =>
          cases m
          case quote => exact operand_of_quotation head run
          case leftBracket =>
            dsimp only at run
            rw [bracket, run_bind_ok (run_advance s)] at run
            obtain ⟨v', t, first, run⟩ := run_bind_eq_ok run
            obtain ⟨_, t', closed, run⟩ := run_bind_eq_ok run
            cases run
            obtain ⟨right, rfl⟩ := run_expect_eq_ok closed
            exact .bracket head first right
          case plus => cases unsigned
          case minus => cases unsigned
          all_goals
            cases run
            refine .missing fun t found => ?_
            rw [head] at found
            cases found
            rfl

theorem operand_of_run (run : (factor (atom setting inner)).run s = .ok v u) :
    Operand setting inner s v u := by
  rw [factor_eq, run_bind_ok (run_peek s)] at run
  cases signed : (rest s).head?.bind Operator.additive? with
  | none =>
      rw [signed] at run
      exact operand_of_atom signed run
  | some o =>
      obtain ⟨t, head, known⟩ := Option.bind_eq_some_iff.mp signed
      obtain rfl := Operator.Additive.mark_of_additive? known
      rw [signed] at run
      dsimp only at run
      rw [run_bind_ok (run_advance s)] at run
      obtain ⟨v', t, first, run⟩ := run_bind_eq_ok run
      cases run
      exact .sign head first

end Operands

end Formulary.Rule
