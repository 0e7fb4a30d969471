import Formulary.Screen.Control

set_option autoImplicit false

namespace Formulary.Screen.Control

theorem sequenceLength_of_other {cs : List Char} (other : ∀ more, cs ≠ '\x1b' :: '[' :: more) :
    sequenceLength cs = 0 := by
  unfold sequenceLength
  split
  · exact absurd rfl (other _)
  · rfl

theorem leaveOut_of_notMem {cs : List Char} (absent : '\x1b' ∉ cs) : leaveOut 0 cs = cs := by
  induction cs with
  | nil => rfl
  | cons c cs ih =>
      obtain ⟨differs, absent⟩ := List.ne_and_not_mem_of_not_mem_cons absent
      have plain : sequenceLength (c :: cs) = 0 :=
        sequenceLength_of_other fun more same => differs (List.cons.inj same).1.symm
      rw [leaveOut, plain]
      simp [ih absent]

theorem strip_of_notMem {s : String} (absent : '\x1b' ∉ s.toList) : strip s = s := by
  rw [strip, leaveOut_of_notMem absent, String.ofList_toList]

theorem takeWhile_newline (cs : List Char) :
    (cs ++ ['\n']).takeWhile isParameter = cs.takeWhile isParameter := by
  induction cs with
  | nil => rfl
  | cons c cs ih => simp only [List.cons_append, List.takeWhile_cons, ih]

theorem sequenceLength_newline {cs : List Char} (nonempty : cs ≠ []) :
    sequenceLength (cs ++ ['\n']) = sequenceLength cs := by
  by_cases opens : ∃ more, cs = '\x1b' :: '[' :: more
  · obtain ⟨more, rfl⟩ := opens
    have inside : (more.takeWhile isParameter).length ≤ more.length :=
      (List.takeWhile_prefix _).length_le
    simp only [List.cons_append, sequenceLength, takeWhile_newline,
      List.drop_append_of_le_length inside]
    cases more.drop (more.takeWhile isParameter).length <;> rfl
  · have closed : ∀ more, cs ≠ '\x1b' :: '[' :: more := fun more same => opens ⟨more, same⟩
    rw [sequenceLength_of_other closed]
    refine sequenceLength_of_other fun more same => ?_
    match cs, nonempty with
    | [c], _ => cases same
    | c :: d :: cs, _ =>
        simp only [List.cons_append, List.cons.injEq] at same
        obtain ⟨rfl, rfl, -⟩ := same
        exact closed cs rfl

theorem sequenceLength_le (cs : List Char) : sequenceLength cs ≤ cs.length := by
  unfold sequenceLength
  split
  · next cs =>
      dsimp only
      split
      · next ends =>
          have inside : (cs.takeWhile isParameter).length < cs.length :=
            Nat.lt_of_not_le fun past => by simp [List.drop_eq_nil_of_le past] at ends
          simp only [List.length_cons]
          omega
      · exact Nat.zero_le _
  · exact Nat.zero_le _

theorem leaveOut_newline {skip : Nat} {cs : List Char} (inside : skip ≤ cs.length) :
    leaveOut skip (cs ++ ['\n']) = leaveOut skip cs ++ ['\n'] := by
  induction cs generalizing skip with
  | nil =>
      obtain rfl : skip = 0 := by simpa using inside
      rfl
  | cons c cs ih =>
      cases skip with
      | succ skip => exact ih (Nat.le_of_succ_le_succ inside)
      | zero =>
          have short := sequenceLength_le (c :: cs)
          have same := sequenceLength_newline (List.cons_ne_nil c cs)
          simp only [List.cons_append] at same
          simp only [List.cons_append, leaveOut, same]
          cases found : sequenceLength (c :: cs) with
          | zero => simp [ih (Nat.zero_le _)]
          | succ length =>
              rw [found] at short
              exact ih (Nat.le_of_succ_le_succ short)

theorem strip_newline (s : String) : strip (s ++ "\n") = strip s ++ "\n" := by
  have split : (s ++ "\n").toList = s.toList ++ ['\n'] := by simp
  rw [strip, split, leaveOut_newline (Nat.zero_le _)]
  simp [strip]

end Formulary.Screen.Control
