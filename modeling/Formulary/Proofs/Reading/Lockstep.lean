import Formulary.Proofs.Reading.Turns

set_option autoImplicit false

namespace Formulary

open Tape Rule

variable {σ τ : Type} [Tape σ] [Tape τ] {α β : Type}

/-- What ties the tapes and the faults of two runs together. -/
structure Pairing (σ τ : Type) where
  tapes : σ → τ → Prop
  faults : Fault → Fault → Prop

namespace Pairing

variable (P : Pairing σ τ)

def Agree : EStateM.Result Fault σ α → EStateM.Result Fault τ α → Prop
  | .ok a s, .ok b t => a = b ∧ P.tapes s t
  | .error f s, .error g t => P.faults f g ∧ P.tapes s t
  | _, _ => False

omit [Tape σ] [Tape τ] in
theorem Agree.ok_left {P : Pairing σ τ} {a : α} {s : σ} {r : EStateM.Result Fault τ α}
    (agree : P.Agree (.ok a s) r) : ∃ t, r = .ok a t ∧ P.tapes s t := by
  cases r with
  | ok b t =>
      obtain ⟨rfl, paired⟩ := agree
      exact ⟨t, rfl, paired⟩
  | error g t => exact agree.elim

omit [Tape σ] [Tape τ] in
theorem Agree.ok_right {P : Pairing σ τ} {a : α} {t : τ} {r : EStateM.Result Fault σ α}
    (agree : P.Agree r (.ok a t)) : ∃ s, r = .ok a s ∧ P.tapes s t := by
  cases r with
  | ok b s =>
      obtain ⟨rfl, paired⟩ := agree
      exact ⟨s, rfl, paired⟩
  | error f s => exact agree.elim

def Lockstep (m : Cursor σ α) (n : Cursor τ α) : Prop :=
  ∀ s t, P.tapes s t → P.Agree (m.run s) (n.run t)

/-- Paired tapes look alike to every rule that looks for a mark, the opening bracket apart: one run
may meet a name where the other meets a bracket. -/
structure Steady : Prop where
  faults_refl : ∀ f, P.faults f f
  empty : ∀ {s t}, P.tapes s t → rest s = [] → rest t = []
  head : ∀ {s t}, P.tapes s t → ∀ {m}, m ≠ .leftBracket →
    ((rest s).head? = some (.mark m) ↔ (rest t).head? = some (.mark m))
  unexpected : ∀ {s t}, P.tapes s t → ∀ m,
    P.faults (.unexpected m (rest s).head?) (.unexpected m (rest t).head?)
  advance : ∀ {s t}, P.tapes s t → ∀ {m}, m ≠ .leftBracket → m ≠ .quote →
    (rest s).head? = some (.mark m) → P.tapes (advanced s) (advanced t)
  opening : ∀ {s t}, P.tapes s t → (rest s).head? = some (.mark .leftBracket) →
    (rest t).head? = some (.mark .leftBracket) → P.tapes (advanced s) (advanced t)
  cut : ∀ {s t}, P.tapes s t → P.tapes (Tape.cut s) (Tape.cut t)

def within (n : Nat) : Pairing σ τ where
  tapes s t := P.tapes s t ∧ (rest s).length ≤ n
  faults := P.faults

variable {P}

theorem Steady.within (steady : P.Steady) (n : Nat) : (P.within n).Steady where
  faults_refl := steady.faults_refl
  empty paired := steady.empty paired.1
  head paired := steady.head paired.1
  unexpected paired := steady.unexpected paired.1
  advance paired m bracket quote head :=
    ⟨steady.advance paired.1 bracket quote head,
      Nat.le_trans (Nat.le_of_lt (advanced_shorter head)) paired.2⟩
  opening paired head head' :=
    ⟨steady.opening paired.1 head head',
      Nat.le_trans (Nat.le_of_lt (advanced_shorter head)) paired.2⟩
  cut paired := ⟨steady.cut paired.1, by simpa using paired.2⟩

omit [Tape σ] [Tape τ] in
theorem Agree.imp {Q : Pairing σ τ} {r : EStateM.Result Fault σ α}
    {r' : EStateM.Result Fault τ α} (agree : P.Agree r r')
    (tapes : ∀ t, P.tapes (Cursor.last r) t → Q.tapes (Cursor.last r) t)
    (faults : ∀ f g, P.faults f g → Q.faults f g) : Q.Agree r r' := by
  cases r with
  | ok a s =>
      obtain ⟨t, rfl, paired⟩ := agree.ok_left
      exact ⟨rfl, tapes t paired⟩
  | error f s =>
      cases r' with
      | ok b t => exact agree.elim
      | error g t => exact ⟨faults f g agree.1, tapes t agree.2⟩

omit [Tape τ] in
theorem agree_within {n m : Nat} (le : n ≤ m) {r : EStateM.Result Fault σ α}
    {r' : EStateM.Result Fault τ α} (h : (P.within n).Agree r r') : (P.within m).Agree r r' :=
  h.imp (fun _ paired => ⟨paired.1, Nat.le_trans paired.2 le⟩) fun _ _ tied => tied

omit [Tape τ] in
theorem Agree.of_within {n : Nat} {r : EStateM.Result Fault σ α}
    {r' : EStateM.Result Fault τ α} (h : (P.within n).Agree r r') : P.Agree r r' :=
  h.imp (fun _ paired => paired.1) fun _ _ tied => tied

omit [Tape τ] in
theorem Agree.within {m : Cursor σ α} (shrinks : Shrinks m) {n : Nat} {s : σ}
    (bound : (rest s).length ≤ n) {r' : EStateM.Result Fault τ α}
    (h : P.Agree (m.run s) r') : (P.within n).Agree (m.run s) r' :=
  h.imp (fun _ paired => ⟨paired, Nat.le_trans (shrinks s).length_le bound⟩) fun _ _ tied => tied

omit [Tape σ] [Tape τ] in
theorem Agree.bind {m : Cursor σ α} {n : Cursor τ α} {f : α → Cursor σ β} {g : α → Cursor τ β}
    {s : σ} {t : τ} (first : P.Agree (m.run s) (n.run t))
    (next : ∀ a u v, m.run s = .ok a u → n.run t = .ok a v → P.tapes u v →
      P.Agree ((f a).run u) ((g a).run v)) :
    P.Agree ((m >>= f).run s) ((n >>= g).run t) := by
  cases left : m.run s with
  | ok a u =>
      cases right : n.run t with
      | ok b v =>
          rw [left, right] at first
          obtain ⟨rfl, paired⟩ := first
          rw [run_bind_ok left, run_bind_ok right]
          exact next a u v left right paired
      | error g v => simp [left, right, Agree] at first
  | error e u =>
      cases right : n.run t with
      | ok b v => simp [left, right, Agree] at first
      | error g v =>
          rw [left, right] at first
          rw [run_bind_error left, run_bind_error right]
          exact first

theorem agree_lift (steady : P.Steady) (e : Except Fault α) {s : σ} {t : τ}
    (paired : P.tapes s t) : P.Agree ((lift e : Cursor σ α).run s) ((lift e).run t) := by
  cases e with
  | ok a => exact ⟨rfl, paired⟩
  | error f => exact ⟨steady.faults_refl f, paired⟩

theorem agree_expect (steady : P.Steady) {m : Separator} (bracket : m ≠ .leftBracket)
    (quote : m ≠ .quote) {s : σ} {t : τ} (paired : P.tapes s t) :
    P.Agree ((expect m : Cursor σ Unit).run s) ((expect m).run t) := by
  rw [run_expect, run_expect]
  by_cases found : (rest s).head? = some (.mark m)
  · rw [if_pos found, if_pos ((steady.head paired bracket).mp found)]
    exact ⟨rfl, steady.advance paired bracket quote found⟩
  · rw [if_neg found, if_neg fun h => found ((steady.head paired bracket).mpr h)]
    exact ⟨steady.unexpected paired m, paired⟩

def Marks (operator? : Token → Option α) : Prop :=
  ∀ t op, operator? t = some op → ∃ m, t = .mark m ∧ m ≠ .leftBracket ∧ m ≠ .quote

theorem Steady.operator (steady : P.Steady) {operator? : Token → Option α}
    (marks : Marks operator?) {s : σ} {t : τ} (paired : P.tapes s t) :
    (rest s).head?.bind operator? = (rest t).head?.bind operator? := by
  apply Option.ext
  intro op
  rw [Option.bind_eq_some_iff, Option.bind_eq_some_iff]
  constructor
  · rintro ⟨found, head, applies⟩
    obtain ⟨m, rfl, bracket, -⟩ := marks found op applies
    exact ⟨_, (steady.head paired bracket).mp head, applies⟩
  · rintro ⟨found, head, applies⟩
    obtain ⟨m, rfl, bracket, -⟩ := marks found op applies
    exact ⟨_, (steady.head paired bracket).mpr head, applies⟩

theorem Steady.advance_operator (steady : P.Steady) {operator? : Token → Option α}
    (marks : Marks operator?) {s : σ} {t : τ} (paired : P.tapes s t) {op : α}
    (found : (rest s).head?.bind operator? = some op) :
    P.tapes (advanced s) (advanced t) ∧ (rest (advanced s)).length < (rest s).length := by
  obtain ⟨token, head, applies⟩ := Option.bind_eq_some_iff.mp found
  obtain ⟨m, rfl, bracket, quote⟩ := marks token op applies
  exact ⟨steady.advance paired bracket quote head, advanced_shorter head⟩

section Operands

variable {left : Cursor σ Value} {right : Cursor τ Value}

theorem lockstep_chainOn (steady : P.Steady) {operator? : Token → Option α}
    (marks : Marks operator?) (combine : α → Value → Value → Except Fault Value)
    (shrinks : Shrinks left) (shrinks' : Shrinks right) (h : P.Lockstep left right) (a : Value) :
    P.Lockstep (chainOn left operator? combine a) (chainOn right operator? combine a) := by
  intro s t paired
  induction hn : (rest s).length using Nat.strongRecOn generalizing a s t with
  | ind n ih =>
    have same := steady.operator marks paired
    cases found : (rest s).head?.bind operator? with
    | none =>
        rw [chainOn_stop operator? combine a found, chainOn_stop operator? combine a (same ▸ found)]
        exact ⟨rfl, paired⟩
    | some op =>
        obtain ⟨next, shorter⟩ := steady.advance_operator marks paired found
        rw [chainOn_step shrinks operator? combine a found,
          chainOn_step shrinks' operator? combine a (same ▸ found)]
        apply (h _ _ next).bind
        intro b u v run _ paired
        have bound := shrinks.length_le run
        apply (agree_lift steady _ paired).bind
        intro c u' v' joined _ paired'
        obtain ⟨-, rfl⟩ := run_lift_eq_ok joined
        exact ih _ (by omega) c u' v' paired' rfl

theorem lockstep_tier (steady : P.Steady) {operator? : Token → Option α}
    (marks : Marks operator?) (combine : α → Value → Value → Except Fault Value)
    (shrinks : Shrinks left) (shrinks' : Shrinks right) (h : P.Lockstep left right) :
    P.Lockstep (tier operator? combine left) (tier operator? combine right) := by
  intro s t paired
  rw [tier_eq, tier_eq]
  apply (h s t paired).bind
  intro a u v _ _ paired
  exact lockstep_chainOn steady marks combine shrinks shrinks' h a u v paired

theorem lockstep_power (steady : P.Steady) (shrinks : Shrinks left) (shrinks' : Shrinks right)
    (h : P.Lockstep left right) : P.Lockstep (power left) (power right) := by
  intro s t paired
  induction hn : (rest s).length using Nat.strongRecOn generalizing s t with
  | ind n ih =>
    rw [power_eq shrinks, power_eq shrinks']
    apply (h s t paired).bind
    intro a u v run _ paired
    have bound := shrinks.length_le run
    have same := steady.head paired (m := .caret) (by decide)
    by_cases caret : (rest u).head? = some (.mark .caret)
    · have shorter := advanced_shorter caret
      rw [powerAfter_step left a caret, powerAfter_step right a (same.mp caret)]
      apply (ih _ (by omega) _ _ (steady.advance paired (by decide) (by decide) caret) rfl).bind
      intro b u' v' _ _ paired
      exact agree_lift steady _ paired
    · rw [powerAfter_stop left a caret, powerAfter_stop right a fun h => caret (same.mpr h)]
      exact ⟨rfl, paired⟩

theorem marks_additive : Marks Operator.additive? := by
  intro t op found
  unfold Operator.additive? at found
  split at found <;> simp_all

theorem lockstep_factor (steady : P.Steady) (h : P.Lockstep left right) :
    P.Lockstep (factor left) (factor right) := by
  intro s t paired
  induction hn : (rest s).length using Nat.strongRecOn generalizing s t with
  | ind n ih =>
    rw [factor_eq left, factor_eq right, run_bind_ok (run_peek s), run_bind_ok (run_peek t),
      ← steady.operator marks_additive paired]
    cases found : (rest s).head?.bind Operator.additive? with
    | none => exact h s t paired
    | some sign =>
        obtain ⟨next, shorter⟩ := steady.advance_operator marks_additive paired found
        simp only [run_bind_ok (run_advance s), run_bind_ok (run_advance t)]
        apply (ih _ (by omega) _ _ next rfl).bind
        intro b u v _ _ paired
        exact ⟨rfl, paired⟩

theorem marks_comparison : Marks Comparison.ofToken? := by
  intro t op found
  unfold Comparison.ofToken? at found
  split at found <;> simp_all

theorem marks_concat : Marks Operator.isConcat? := by
  intro t op found
  unfold Operator.isConcat? at found
  split at found <;> simp_all

theorem marks_multiplicative : Marks Operator.multiplicative? := by
  intro t op found
  unfold Operator.multiplicative? at found
  split at found <;> simp_all

theorem lockstep_comparison (steady : P.Steady) {setting setting' : Setting}
    {inner : Cursor σ Value} {inner' : Cursor τ Value} (shrinks : Shrinks inner)
    (shrinks' : Shrinks inner') (h : P.Lockstep (atom setting inner) (atom setting' inner')) :
    P.Lockstep (comparison setting inner) (comparison setting' inner') := by
  have c : Course fun s t : σ => rest t <:+ rest s := course_suffix
  have c' : Course fun s t : τ => rest t <:+ rest s := course_suffix
  have f := keeps_power c (keeps_factor c (keeps_atom c shrinks setting))
  have f' := keeps_power c' (keeps_factor c' (keeps_atom c' shrinks' setting'))
  have powers := lockstep_power steady (keeps_factor c (keeps_atom c shrinks setting))
    (keeps_factor c' (keeps_atom c' shrinks' setting')) (lockstep_factor steady h)
  have products := lockstep_tier steady marks_multiplicative Operator.multiply f f' powers
  have g := keeps_tier c f Operator.multiplicative? Operator.multiply
  have g' := keeps_tier c' f' Operator.multiplicative? Operator.multiply
  have sums := lockstep_tier steady marks_additive Operator.add g g' products
  have k := keeps_tier c g Operator.additive? Operator.add
  have k' := keeps_tier c' g' Operator.additive? Operator.add
  have texts := lockstep_tier steady marks_concat Operator.concat k k' sums
  exact lockstep_tier steady marks_comparison Comparison.apply
    (keeps_tier c k Operator.isConcat? Operator.concat)
    (keeps_tier c' k' Operator.isConcat? Operator.concat) texts

end Operands

section Inner

variable {left : Cursor σ Value} {right : Cursor τ Value}

theorem lockstep_argumentsOn (steady : P.Steady) (shrinks : Shrinks left)
    (shrinks' : Shrinks right) (h : P.Lockstep left right) (legacy : Bool)
    (admitsError : Nat → Bool) (args : List Value) (refused : Option Value) :
    P.Lockstep (argumentsOn left legacy admitsError args refused)
      (argumentsOn right legacy admitsError args refused) := by
  intro s t paired
  induction hn : (rest s).length using Nat.strongRecOn generalizing args refused s t with
  | ind n ih =>
    rw [argumentsOn_eq shrinks, argumentsOn_eq shrinks']
    apply (h s t paired).bind
    intro arg u v run _ paired
    have bound := shrinks.length_le run
    unfold argumentsAfter
    split
    · exact ⟨rfl, paired⟩
    · rw [run_bind_ok (run_atMark _ u), run_bind_ok (run_atMark _ v)]
      have same := steady.head paired (m := .comma) (by decide)
      by_cases comma : (rest u).head? = some (.mark .comma)
      · have shorter := advanced_shorter comma
        simp only [comma, same.mp comma, beq_self_eq_true, if_true]
        rw [run_bind_ok (run_advance u), run_bind_ok (run_advance v)]
        exact ih _ (by omega) _ _ _ _ (steady.advance paired (by decide) (by decide) comma) rfl
      · have comma' : ¬ (rest v).head? = some (.mark .comma) := fun h => comma (same.mpr h)
        simp only [beq_iff_eq, if_neg comma, if_neg comma']
        exact ⟨rfl, paired⟩

theorem lockstep_listed (steady : P.Steady) (shrinks : Shrinks left)
    (shrinks' : Shrinks right) (h : P.Lockstep left right) (legacy : Bool)
    (admitsError : Nat → Bool) :
    P.Lockstep (listed left legacy admitsError) (listed right legacy admitsError) := by
  intro s t paired
  rw [listed_eq, listed_eq, run_bind_ok (run_atMark _ s), run_bind_ok (run_atMark _ t)]
  have same := steady.head paired (m := .rightBracket) (by decide)
  by_cases closed : (rest s).head? = some (.mark .rightBracket)
  · simp only [closed, same.mp closed, beq_self_eq_true, if_true]
    exact ⟨rfl, paired⟩
  · have closed' : ¬ (rest t).head? = some (.mark .rightBracket) := fun h => closed (same.mpr h)
    simp only [beq_iff_eq, if_neg closed, if_neg closed']
    exact lockstep_argumentsOn steady shrinks shrinks' h legacy admitsError [] none s t paired

theorem agree_call (steady : P.Steady) (shrinks : Shrinks left) (shrinks' : Shrinks right)
    (h : P.Lockstep left right) (legacy : Bool) (name : String) {s : σ} {t : τ}
    (here : P.tapes s t) (opened : (rest s).head? = some (.mark .leftBracket))
    (opened' : (rest t).head? = some (.mark .leftBracket)) :
    P.Agree ((call legacy left name).run s) ((call legacy right name).run t) := by
  have paired := steady.opening here opened opened'
  rw [call_eq, call_eq]
  split
  · exact ⟨rfl, steady.cut here⟩
  · rw [run_bind_ok (run_advance s), run_bind_ok (run_advance t)]
    apply (lockstep_listed steady shrinks shrinks' h legacy _ _ _ paired).bind
    intro given u v _ _ paired
    cases given with
    | abandoned e => exact ⟨rfl, steady.cut paired⟩
    | complete args refused =>
        apply (agree_expect steady (by decide) (by decide) paired).bind
        intro _ w w' _ _ paired
        exact agree_lift steady _ paired

theorem agree_atom (steady : P.Steady) (shrinks : Shrinks left) (shrinks' : Shrinks right)
    {setting setting' : Setting} (mode : setting.legacy = setting'.legacy) {n : Nat}
    (h : (P.within n).Lockstep left right) {s : σ} {t : τ} (paired : (P.within (n + 1)).tapes s t)
    (heads : (rest s).head? = (rest t).head?)
    (next : ∀ token, (rest s).head? = some token → token ≠ .mark .quote →
      P.tapes (advanced s) (advanced t))
    (quotes : (rest s).head? = some (.mark .quote) →
      P.Agree ((quotation : Cursor σ Value).run s) (quotation.run t))
    (names : ∀ w, (rest s).head? = some (.word w) → Token.isName w = true →
      ((rest (advanced s)).head? = some (.mark .leftBracket) ↔
        (rest (advanced t)).head? = some (.mark .leftBracket)) ∧
      ((rest (advanced s)).head? ≠ some (.mark .leftBracket) →
        setting.scope.read w = setting'.scope.read w)) :
    (P.within (n + 1)).Agree ((atom setting left).run s) ((atom setting' right).run t) := by
  rw [atom, atom, run_bind_ok (run_peek s), run_bind_ok (run_peek t), ← heads]
  cases head : (rest s).head? with
  | none => exact ⟨rfl, paired⟩
  | some token =>
      have shorter := advanced_shorter head
      have bound := paired.2
      have within (unquoted : token ≠ .mark .quote) :
          (P.within n).tapes (advanced s) (advanced t) := ⟨next token head unquoted, by omega⟩
      cases token with
      | mark m =>
          cases m
          case leftBracket =>
            apply agree_within (Nat.le_succ n)
            rw [bracket, bracket, run_bind_ok (run_advance s), run_bind_ok (run_advance t)]
            apply (h _ _ (within (by decide))).bind
            intro v u u' _ _ paired
            apply (agree_expect (steady.within n) (by decide) (by decide) paired).bind
            intro _ w w' _ _ paired
            exact ⟨rfl, paired⟩
          case quote => exact (quotes head).within (keeps_quotation course_suffix) bound
          all_goals exact ⟨rfl, paired⟩
      | word w =>
          have behind := within (by simp)
          dsimp only
          rw [word, word]
          split
          · apply agree_within (Nat.le_succ n)
            exact agree_lift (steady.within n) _ behind
          · split
            · exact ⟨rfl, behind.1, Nat.le_succ_of_le behind.2⟩
            · split
              · rename_i noNumber _ truth named
                obtain ⟨opens, reads⟩ := names w head (by
                  simp [Token.isName, Token.isKeyword, noNumber, truth, named])
                apply agree_within (Nat.le_succ n)
                rw [identifier, identifier, run_bind_ok (run_advance s),
                  run_bind_ok (run_advance t), run_bind_ok (run_atMark _ _),
                  run_bind_ok (run_atMark _ _), ← mode]
                -- Both runs call the name, or both look it up, and then it means the same to them.
                by_cases opened : (rest (advanced s)).head? = some (.mark .leftBracket)
                · simp only [opened, opens.mp opened, beq_self_eq_true, if_true]
                  exact agree_call (steady.within n) shrinks shrinks' h _ _ behind opened
                    (opens.mp opened)
                · have opened' := fun h => opened (opens.mpr h)
                  simp only [beq_iff_eq, if_neg opened, if_neg opened']
                  rw [← reads opened]
                  exact agree_lift (steady.within n) _ behind
              · exact ⟨rfl, paired⟩

end Inner

structure Linked (link : σ → τ → Prop) : Prop where
  move : ∀ {s t}, link s t → ∀ f, link (Tape.move f s) (Tape.move f t)
  cut : ∀ {s t}, link s t → link (Tape.cut s) (Tape.cut t)

theorem linked_true : Linked fun (_ : σ) (_ : τ) => True := ⟨fun _ _ => trivial, fun _ => trivial⟩

theorem linked_eq : Linked fun s t : σ => s = t :=
  ⟨fun h _ => congrArg _ h, fun h => congrArg _ h⟩

def alike (link : σ → τ → Prop) : Pairing σ τ where
  tapes s t := rest s = rest t ∧ link s t
  faults f g := f = g

section Alike

variable {link : σ → τ → Prop} (linked : Linked link)

include linked

theorem alike_advance {s : σ} {t : τ} (paired : (alike link).tapes s t) :
    (alike link).tapes (advanced s) (advanced t) :=
  ⟨by rw [rest_advanced, rest_advanced, paired.1], linked.move paired.2 _⟩

theorem steady_alike : (alike link).Steady where
  faults_refl _ := rfl
  empty paired empty := paired.1 ▸ empty
  head paired _ _ := by rw [paired.1]
  unexpected paired m := by rw [paired.1]; rfl
  advance paired _ _ _ _ := alike_advance linked paired
  opening paired _ _ := alike_advance linked paired
  cut paired := ⟨by rw [rest_cut, rest_cut, paired.1], linked.cut paired.2⟩

theorem agree_quotation_alike {s : σ} {t : τ} (paired : (alike link).tapes s t)
    (head : (rest s).head? = some (.mark .quote)) :
    (alike link).Agree ((quotation : Cursor σ Value).run s) (quotation.run t) := by
  obtain ⟨same, beside⟩ := paired
  obtain ⟨ts, here⟩ := List.head?_eq_some_iff.mp head
  have beside' : link (closing s) (closing t) := linked.move (linked.move beside _) _
  by_cases closed : .mark .quote ∈ ts
  · obtain ⟨content, us, rfl, unquoted⟩ := List.eq_append_cons_of_mem closed
    obtain ⟨run, behind⟩ := run_quotation_closed unquoted here
    obtain ⟨run', behind'⟩ := run_quotation_closed unquoted (same ▸ here)
    rw [run, run']
    exact ⟨rfl, behind.trans behind'.symm, linked.move beside' _⟩
  · obtain ⟨run, behind⟩ := run_quotation_open closed here
    obtain ⟨run', behind'⟩ := run_quotation_open closed (same ▸ here)
    rw [run, run']
    exact ⟨rfl, behind.trans behind'.symm, beside'⟩

theorem lockstep_atom_alike {left : Cursor σ Value} {right : Cursor τ Value}
    (shrinks : Shrinks left) (shrinks' : Shrinks right) (setting : Setting) {n : Nat}
    (h : ((alike link).within n).Lockstep left right) :
    ((alike link).within (n + 1)).Lockstep (atom setting left) (atom setting right) := by
  intro s t paired
  apply agree_atom (steady_alike linked) shrinks shrinks' rfl h paired (by rw [paired.1.1])
  · exact fun _ _ _ => alike_advance linked paired.1
  · exact agree_quotation_alike linked paired.1
  · exact fun w _ _ => ⟨by rw [(alike_advance linked paired.1).1], fun _ => rfl⟩

end Alike

end Pairing

end Formulary
