import Formulary.Proofs.Grammar.Calls

set_option autoImplicit false

namespace Formulary

open Tape Rule Token

variable {σ : Type} [Tape σ] {Cut : σ → Prop} {setting : Setting}

section Operands

theorem run_unsigned {s : σ} (unsigned : (rest s).head?.bind Operator.additive? = none) :
    (rung setting 5).run s = (atom setting (whole setting)).run s := by
  rw [rung_five, factor_eq, run_bind_ok (run_peek s), unsigned]

theorem run_sign {s : σ} {o : Operator.Additive}
    (signed : (rest s).head?.bind Operator.additive? = some o) :
    (rung setting 5).run s =
      (do return Operator.signed o (← rung setting 5) : Cursor σ Value).run (advanced s) := by
  rw [rung_five, factor_eq, run_bind_ok (run_peek s), signed]
  dsimp only
  rw [run_bind_ok (run_advance s), ← factor_eq]

theorem run_rung_word {s : σ} {w : String} (here : (rest s).head? = some (.word w)) :
    (rung setting 5).run s = (word setting (whole setting) w).run s := by
  rw [run_unsigned (by rw [here]; rfl), atom, run_bind_ok (run_peek s), here]

theorem rest_behind {s : σ} {t : Token} {next : List Token} (here : rest s = t :: next)
    (settled : Settled next) : rest (advanced s) = next := by
  rw [rest_advanced, here, List.tail_cons, skipSpaces_settled settled]

theorem atom_idle (inner : Cursor σ Value) {s : σ}
    (idle : ∀ t, (rest s).head? = some t → t.startsOperand = false) :
    (atom setting inner).run s = .ok .tokenError s := by
  rw [atom, run_bind_ok (run_peek s)]
  cases head : (rest s).head? with
  | none => rfl
  | some t =>
      have none := idle t head
      cases t with
      | mark m => cases m <;> first | rfl | cases none
      | word w =>
          simp only [startsOperand, Bool.or_eq_false_iff] at none
          obtain ⟨⟨noNumber, noKeyword⟩, noName⟩ := none
          have truth : boolean? w = Option.none := by simpa [isKeyword] using noKeyword
          dsimp only
          rw [Rule.word, if_neg (by simp [noNumber]), truth]
          dsimp only
          rw [if_neg (by simp [noName])]
          rfl

theorem reads_missing : Reads Cut setting 5 .missing := by
  intro next s fits _ _ here
  simp only [Tree.yield, List.nil_append] at here
  have idle : ∀ t, (rest s).head? = some t → t.startsOperand = false := by rwa [here]
  have unsigned : (rest s).head?.bind Operator.additive? = none := by
    apply Option.bind_eq_none_iff.mpr
    intro t head
    have none := idle t head
    cases t with
    | word w => rfl
    | mark m => cases m <;> first | rfl | cases none
  rw [run_unsigned unsigned, atom_idle (whole setting) idle]
  exact .inr ⟨rfl, here⟩

theorem reads_number (w : String) : Reads Cut setting 5 (.number w) := by
  intro next s fits settled _ here
  have starts : startsNumber w = true := fits
  simp only [Tree.yield, List.cons_append, List.nil_append] at here
  rw [run_rung_word (w := w) (by rw [here]; rfl), Rule.word, if_pos starts,
    run_bind_ok (run_advance s), numeral_eq]
  exact .inr ⟨rfl, rest_behind here settled⟩

theorem reads_keyword (w : String) : Reads Cut setting 5 (.keyword w) := by
  intro next s fits settled _ here
  obtain ⟨noNumber, known⟩ := fits
  simp only [Tree.yield, List.cons_append, List.nil_append] at here
  obtain ⟨b, truth⟩ := Option.isSome_iff_exists.mp known
  rw [run_rung_word (w := w) (by rw [here]; rfl), Rule.word, if_neg (by simp [noNumber]), truth,
    run_bind_ok (run_advance s)]
  refine .inr ⟨?_, rest_behind here settled⟩
  rw [Tree.value, truth]
  cases b <;> rfl

theorem reads_text (content : List Token) : Reads Cut setting 5 (.text content) := by
  intro next s fits settled _ here
  simp only [Tree.yield, List.cons_append, List.append_assoc, List.nil_append] at here
  obtain ⟨run, there⟩ := run_quotation_closed fits here
  rw [run_unsigned (by rw [here]; rfl), atom, run_bind_ok (run_peek s), here]
  change Gives _ _ _ ((quotation : Cursor σ Value).run s)
  rw [run]
  exact .inr ⟨rfl, by rw [there, skipSpaces_settled settled]⟩

theorem run_name {s : σ} {w : String} (name : isName w = true)
    (here : (rest s).head? = some (.word w)) :
    (rung setting 5).run s =
      (do
        if ← atMark .leftBracket then call setting.legacy (whole setting) w
        else lift (setting.scope.read w) : Cursor σ Value).run (advanced s) := by
  rw [run_rung_word here, word_name name, identifier, run_bind_ok (run_advance s)]

theorem reads_name (x : String) : Reads Cut setting 5 (.name x) := by
  intro next s fits settled _ here
  obtain ⟨name, unopened⟩ := fits
  simp only [Tree.yield, List.cons_append, List.nil_append] at here
  have there := rest_behind here settled
  rw [run_name name (by rw [here]; rfl), run_bind_ok (run_atMark _ _), there,
    if_neg (by simpa using unopened), ← there]
  exact gives_lift (setting.scope.read x) _

end Operands

variable (noted : Noted Cut setting)

include noted in
theorem reads_sign (o : Operator.Additive) {t : Tree} (h : t.tier = 5 → Reads Cut setting 5 t) :
    Reads Cut setting 5 (.sign o t) := by
  intro next s fits settled stops here
  obtain ⟨tier, fits⟩ := fits
  simp only [Tree.yield, List.cons_append] at here
  have signed : (rest s).head?.bind Operator.additive? = some o := by
    rw [here]
    cases o <;> rfl
  have there := rest_behind here (t.settled_yield settled)
  rw [run_sign signed]
  apply (h tier next (advanced s) fits settled stops there).bind
  · exact fun _ => keeps_pure noted.course _
  · rintro v u _ rfl
    exact .inr ⟨rfl, rfl⟩

include noted in
theorem gives_bracket {e : Except Fault Value} {next : List Token} {s : σ}
    (opened : (rest s).head? = some (.mark .leftBracket)) (settled : Settled next)
    (inner : Gives Cut e (.mark .rightBracket :: next) ((whole setting).run (advanced s))) :
    Gives Cut e next ((rung setting 5).run s) := by
  rw [run_unsigned (by rw [opened]; rfl), atom, run_bind_ok (run_peek s), opened]
  change Gives _ _ _ ((bracket (whole setting)).run s)
  rw [bracket, run_bind_ok (run_advance s), ← bind_pure e]
  apply inner.bind
  · intro v
    exact keeps_bind noted.course (keeps_expect noted.course _) fun _ => keeps_pure noted.course _
  · intro v u _ there
    change Gives Cut ((.ok () : Except Fault Unit) >>= fun _ => .ok v) next _
    apply (gives_expect Cut .rightBracket there settled).bind
    · exact fun _ => keeps_pure noted.course _
    · rintro _ w _ rfl
      exact .inr ⟨rfl, rfl⟩

include noted in
theorem reads_bracket {t : Tree} (h : Reads Cut setting 0 t) :
    Reads Cut setting 5 (.bracket t) := by
  intro next s fits settled _ here
  simp only [Tree.yield, List.cons_append, List.append_assoc, List.nil_append] at here
  have closing : Settled (.mark .rightBracket :: next) := by simp [Settled]
  have there := rest_behind here (t.settled_yield closing)
  have inner := h (.mark .rightBracket :: next) (advanced s) fits (by simp [Settled])
    (stops_mark 0 rfl next) there
  rw [rung_zero] at inner
  exact gives_bracket noted (by rw [here]; rfl) settled inner

include noted in
theorem reads_call (f : String) (args : List Tree)
    (reads : ∀ t ∈ args, Reads Cut setting 0 t) : Reads Cut setting 5 (.call f args) := by
  intro next s fits settled _ here
  obtain ⟨name, given, fits⟩ := fits
  simp only [Tree.yield, List.cons_append, List.append_assoc, List.nil_append] at here
  have there := rest_behind here (by simp [Settled])
  rw [run_name name (by rw [here]; rfl), run_bind_ok (run_atMark _ _), there, if_pos (by rfl)]
  exact gives_call noted f args reads given fits settled there

include noted in
/-- A tree that fits is read with its value, and read at its own tier it may start a chain. -/
theorem reads_and_chains (t : Tree) :
    Reads Cut setting t.tier t ∧ ∀ k, k < 4 → k ≤ t.tier → Chains Cut setting k t := by
  -- Trees of tier 5 start chains as first operands only.
  have operand {t : Tree} (tier : t.tier = 5) (h : Reads Cut setting 5 t) :
      Reads Cut setting t.tier t ∧ ∀ k, k < 4 → k ≤ t.tier → Chains Cut setting k t := by
    refine ⟨tier ▸ h, fun k low _ => ?_⟩
    exact chains_of_reads noted low (reads_below noted (by omega) (Nat.le_refl 5) h)
  induction t with
  | missing => exact operand rfl reads_missing
  | number w => exact operand rfl (reads_number w)
  | keyword w => exact operand rfl (reads_keyword w)
  | text content => exact operand rfl (reads_text content)
  | name x => exact operand rfl (reads_name x)
  | sign o t ih => exact operand rfl (reads_sign noted o fun tier => tier ▸ ih.1)
  | bracket t ih =>
      exact operand rfl (reads_bracket noted (reads_below noted (Nat.zero_le _) t.tier_le ih.1))
  | call f args ih =>
      refine operand rfl (reads_call noted f args fun t mem => ?_)
      exact reads_below noted (Nat.zero_le _) t.tier_le (ih t mem).1
  | binary op a b iha ihb =>
      have right {k : Nat} (le : k ≤ b.tier) : Reads Cut setting k b :=
        reads_below noted le b.tier_le ihb.1
      obtain low | rfl := op.tier_lt_or_power
      · have chains : Chains Cut setting op.tier (.binary op a b) :=
          chains_binary noted low (fun le => iha.2 op.tier low le) right
        refine ⟨reads_of_chains chains, fun k lowk le => ?_⟩
        obtain rfl | below := Nat.eq_or_lt_of_le le
        · exact chains
        · exact chains_of_reads noted lowk (reads_below noted below (Tree.tier_le _)
            (reads_of_chains chains))
      · have power : Reads Cut setting 4 (.binary .power a b) :=
          reads_power noted (fun le => reads_below noted le a.tier_le iha.1) right
        refine ⟨power, fun k lowk _ => ?_⟩
        exact chains_of_reads noted lowk (reads_below noted (by omega) (by decide) power)

include noted in
theorem gives_whole {t : Tree} {next : List Token} (fits : t.Fits next) (settled : Settled next)
    (stops : Stops 0 next) {s : σ} (here : rest s = t.yield ++ next) :
    Gives Cut (t.value setting.scope) next ((whole setting).run s) := by
  have reads := reads_below noted (Nat.zero_le _) t.tier_le (reads_and_chains noted t).1
  rw [← rung_zero]
  exact reads next s fits settled stops here

end Formulary
