import Formulary.Proofs.Grammar.Ladder
import Formulary.Proofs.Reading.Spaces

set_option autoImplicit false

namespace Formulary

open Rule Token

theorem Operation.mark_ne (op : Operation) {m : Separator} (other : Operation.ofMark? m = none) :
    op.mark ≠ m := by
  rintro rfl
  rw [Operation.ofMark?_mark] at other
  cases other

namespace Tree

theorem missing_of_head {m : Separator} (blank : m = .space ∨ m = .rightBracket) (t : Tree)
    {next : List Token} (head : (t.yield ++ next).head? = some (.mark m)) :
    t = .missing ∧ next.head? = some (.mark m) := by
  induction t generalizing next with
  | missing => exact ⟨rfl, head⟩
  | number w => simp [yield] at head
  | keyword w => simp [yield] at head
  | name x => simp [yield] at head
  | text content => rcases blank with rfl | rfl <;> simp [yield] at head
  | sign o t ih => rcases blank with rfl | rfl <;> cases o <;> cases head
  | bracket t ih => rcases blank with rfl | rfl <;> simp [yield] at head
  | binary op a b iha ihb =>
      rw [yield, List.append_assoc] at head
      obtain ⟨-, operation⟩ := iha head
      rw [List.cons_append, List.head?_cons, Option.some.injEq, Token.mark.injEq] at operation
      exact absurd operation (op.mark_ne (by rcases blank with rfl | rfl <;> rfl))
  | call f args ih => simp [yield] at head

theorem settled_yield (t : Tree) {next : List Token} (settled : Settled next) :
    Settled (t.yield ++ next) :=
  fun head => settled (missing_of_head (.inl rfl) t head).2

theorem yieldAll_append (t : Tree) (ts : List Tree) (next : List Token) :
    yieldAll (t :: ts) ++ next =
      t.yield ++ if ts = [] then next else .mark .comma :: (yieldAll ts ++ next) := by
  cases ts with
  | nil => rfl
  | cons u us => simp [yieldAll]

theorem settled_yieldAll (t : Tree) (ts : List Tree) {next : List Token} (settled : Settled next) :
    Settled (yieldAll (t :: ts) ++ next) := by
  rw [yieldAll_append]
  apply t.settled_yield
  split
  · exact settled
  · simp [Settled]

theorem yieldAll_ne_right {t : Tree} {ts : List Tree} (given : t :: ts ≠ [.missing])
    (next : List Token) :
    (yieldAll (t :: ts) ++ next).head? ≠ some (.mark .rightBracket) := by
  intro head
  rw [yieldAll_append] at head
  obtain ⟨rfl, behind⟩ := missing_of_head (.inr rfl) t head
  split at behind
  · simp_all
  · simp at behind

theorem bare_yieldAll (ts : List Tree) {next next' : List Token} (fits : FitAll ts next')
    (each : ∀ t ∈ ts, ∀ next next', t.Fits next' →
      bare false (t.yield ++ next) = t.yield ++ bare false next) :
    bare false (yieldAll ts ++ next) = yieldAll ts ++ bare false next := by
  induction ts generalizing next' with
  | nil => rfl
  | cons t ts ih =>
      rw [yieldAll_append, yieldAll_append]
      cases ts with
      | nil => exact each t (List.mem_cons_self ..) _ _ fits
      | cons u us =>
          obtain ⟨fitsFirst, fitsOthers⟩ := fits
          have others := ih fitsOthers fun t mem => each t (List.mem_cons_of_mem _ mem)
          rw [each t (List.mem_cons_self ..) _ _ fitsFirst, if_neg (by simp), if_neg (by simp),
            bare_cons (by simp) (by simp), others]

theorem bare_yield (t : Tree) {next next' : List Token} (fits : t.Fits next') :
    bare false (t.yield ++ next) = t.yield ++ bare false next := by
  induction t generalizing next next' with
  | missing => rfl
  | number w => exact bare_cons (by simp) (by simp) next
  | keyword w => exact bare_cons (by simp) (by simp) next
  | name x => exact bare_cons (by simp) (by simp) next
  | text content =>
      have unquoted : .mark .quote ∉ content := fits
      simp [yield, bare_unquoted unquoted]
  | sign o t ih =>
      have plain : bare false (.mark o.mark :: (t.yield ++ next)) =
          .mark o.mark :: bare false (t.yield ++ next) := by
        cases o <;> exact bare_cons (by decide) (by decide) _
      rw [yield, List.cons_append, List.cons_append, plain, ih fits.2]
  | bracket t ih =>
      simp only [yield, List.cons_append, List.append_assoc, List.nil_append]
      rw [bare_cons (by decide) (by decide), ih fits, bare_cons (by decide) (by decide)]
  | binary op a b iha ihb =>
      obtain ⟨-, -, fitsLeft, fitsRight⟩ := fits
      simp only [yield, List.cons_append, List.append_assoc]
      rw [iha fitsLeft, bare_cons (by simp [op.mark_ne (m := .quote) rfl])
        (by simp [op.mark_ne (m := .space) rfl]), ihb fitsRight]
  | call f args ih =>
      obtain ⟨-, -, fits⟩ := fits
      simp only [yield, List.cons_append, List.append_assoc, List.nil_append]
      rw [bare_cons (by simp) (by simp), bare_cons (by decide) (by decide),
        bare_yieldAll args fits fun t mem _ _ fits => ih t mem fits,
        bare_cons (by decide) (by decide)]

end Tree

end Formulary
