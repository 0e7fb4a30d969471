import Formulary.Text.Line
import Formulary.Yaml.Print

set_option autoImplicit false

namespace Formulary

theorem Text.unifyBreaks_of_notMem {cs : List Char} (absent : '\r' ∉ cs) : unifyBreaks cs = cs := by
  induction cs with
  | nil => rfl
  | cons c cs ih =>
      obtain ⟨differs, absent⟩ := List.ne_and_not_mem_of_not_mem_cons absent
      rw [unifyBreaks, ih absent]
      · rintro rest rfl
        exact absurd rfl differs
      · rintro rfl
        exact differs rfl

namespace Yaml

namespace Pen

structure IsUnified (p : Pen) : Prop where
  absent : '\r' ∉ p.written

namespace IsUnified

variable {p : Pen} {cs : List Char}

theorem after_write (unified : p.IsUnified) (absent : '\r' ∉ cs) : (p.write cs).IsUnified :=
  ⟨by simpa [Pen.write, absent] using unified.absent⟩

theorem after_newLine (unified : p.IsUnified) : p.newLine.IsUnified :=
  ⟨by simpa [Pen.newLine] using unified.absent⟩

theorem after_newLines (unified : p.IsUnified) (n : Nat) : (p.newLines n).IsUnified := by
  induction n generalizing p with
  | zero => exact unified
  | succ n ih => exact ih unified.after_newLine

theorem of_ite {c : Prop} [Decidable c] {p q : Pen} (first : p.IsUnified)
    (second : q.IsUnified) : (if c then p else q).IsUnified := by
  split
  · exact first
  · exact second

theorem after_indentTo (unified : p.IsUnified) (column : Nat) : (p.indentTo column).IsUnified := by
  have blanks (n : Nat) : '\r' ∉ List.replicate n ' ' := fun mem => by
    simpa using List.eq_of_mem_replicate mem
  have started {c : Prop} [Decidable c] : (if c then p.newLine else p).IsUnified :=
    of_ite unified.after_newLine unified
  exact of_ite ⟨(after_write started (blanks _)).absent⟩ started

theorem after_mark (unified : p.IsUnified) (absent : '\r' ∉ cs)
    (needsSpace isSpacing isIndent : Bool) :
    (p.mark cs needsSpace isSpacing isIndent).IsUnified := by
  have spaced : '\r' ∉ if p.isSpaced || !needsSpace then cs else ' ' :: cs := by
    split
    · exact absent
    · simpa using absent
  exact ⟨(unified.after_write spaced).absent⟩

theorem after_plainFrom (unified : p.IsUnified) (absent : '\r' ∉ cs) (splits : Bool)
    (indent : Nat) : (p.plainFrom splits indent cs).IsUnified := by
  induction cs generalizing p with
  | nil => exact unified
  | cons c cs ih =>
      obtain ⟨differs, others⟩ := List.ne_and_not_mem_of_not_mem_cons absent
      have written : (p.write [c]).IsUnified := unified.after_write (by simpa using differs)
      by_cases blank : c = ' '
      · subst blank
        exact of_ite (ih ⟨(unified.after_indentTo indent).absent⟩ others) (ih written others)
      · rw [Pen.plainFrom]
        · exact ih written others
        · exact blank

theorem after_plain (unified : p.IsUnified) (absent : '\r' ∉ cs) (splits : Bool) (indent : Nat) :
    (p.plain splits indent cs).IsUnified := by
  let spaced : Pen := if p.isSpaced then p else p.write [' ']
  have kept : spaced.IsUnified := of_ite unified (unified.after_write (by decide))
  have begun : Pen.IsUnified { spaced with isSpaced := false, isFresh := false } := ⟨kept.absent⟩
  exact of_ite unified (begun.after_plainFrom absent ..)

theorem after_singleFrom (unified : p.IsUnified) (absent : '\r' ∉ cs) (splits : Bool) (indent : Nat)
    (before : Option Char) : (p.singleFrom splits indent before cs).IsUnified := by
  induction cs generalizing p before with
  | nil => exact unified
  | cons c cs ih =>
      obtain ⟨differs, absent⟩ := List.ne_and_not_mem_of_not_mem_cons absent
      refine ih ?_ absent _
      have broken : (if before = some '\n' then p.newLine else p.newLines 2).IsUnified :=
        of_ite unified.after_newLine (unified.after_newLines 2)
      have spaced : (p.write [' ']).IsUnified := unified.after_write (by decide)
      have written : (p.write [c]).IsUnified := unified.after_write (by simpa using differs)
      exact of_ite (of_ite broken (broken.after_indentTo indent))
        (of_ite (of_ite (unified.after_indentTo indent) spaced)
          (of_ite (unified.after_write (by decide)) written))

theorem after_single (unified : p.IsUnified) (absent : '\r' ∉ cs) (splits : Bool) (indent : Nat) :
    (p.single splits indent cs).IsUnified := by
  have opened : (p.mark ['\''] true false false).IsUnified := unified.after_mark (by decide) ..
  exact after_mark (opened.after_singleFrom absent splits indent none) (by decide) ..

theorem notMem_toDigits (n : Nat) : '\r' ∉ (Nat.toDigits 16 n).map Char.toUpper := by
  have digit : ∀ d < 16, '\r' ≠ (Nat.digitChar d).toUpper := by decide
  induction n using Nat.strongRecOn with
  | ind n ih =>
      rw [Nat.toDigits_eq_if (by decide)]
      split
      · next small => simpa using digit n small
      · next large =>
          have less : n / 16 < n := Nat.div_lt_self (by omega) (by decide)
          simpa [ih _ less] using digit _ (Nat.mod_lt n (by decide))

theorem notMem_escape (c : Char) : '\r' ∉ escape c := by
  have hex (width n : Nat) : '\r' ∉ upperHex width n := by
    simp [upperHex, notMem_toDigits]
  unfold escape
  split
  · next e named =>
      have other : e ≠ '\r' := by
        unfold namedEscape? at named
        split at named <;> cases named <;> decide
      simpa using other.symm
  · split
    · simpa using hex 2 c.toNat
    · split
      · simpa using hex 4 c.toNat
      · simpa using hex 8 c.toNat

theorem after_breakDouble (unified : p.IsUnified) (indent : Nat) (next : Option Char) :
    (p.breakDouble indent next).IsUnified := by
  have broken : ((p.write ['\\']).indentTo indent).IsUnified :=
    (unified.after_write (by decide)).after_indentTo indent
  exact of_ite (after_write ⟨broken.absent⟩ (by decide)) ⟨broken.absent⟩

theorem after_doubleFrom (unified : p.IsUnified) (splits : Bool) (indent : Nat) (isFirst : Bool)
    {run : List Char} (absent : '\r' ∉ run) :
    (p.doubleFrom splits indent isFirst run cs).IsUnified := by
  induction cs generalizing p run isFirst with
  | nil => exact unified.after_write (by simpa using absent)
  | cons c cs ih =>
      have ran : (p.write run.reverse).IsUnified := unified.after_write (by simpa using absent)
      rw [Pen.doubleFrom]
      split
      · have escaped := ran.after_write (notMem_escape c)
        exact ih (of_ite (escaped.after_breakDouble ..) escaped) _ (by decide)
      · next visible =>
          have differs : '\r' ≠ c := by
            rintro rfl
            exact visible (by decide)
          split
          · exact ih (ran.after_breakDouble ..) _ (by simpa using differs)
          · exact ih unified _ (by simp [differs, absent])

theorem after_double (unified : p.IsUnified) (splits : Bool) (indent : Nat) (cs : List Char) :
    (p.double splits indent cs).IsUnified := by
  have opened : (p.mark ['"'] true false false).IsUnified := unified.after_mark (by decide) ..
  exact after_mark (opened.after_doubleFrom splits indent true (by decide)) (by decide) ..

theorem after_styled (unified : p.IsUnified) (s : String) (splits : Bool) (indent : Nat) :
    (p.styled (Style.ofText s) splits indent s.toList).IsUnified := by
  have visible (ordinary : s.toList.any Style.isSpecial = false) : '\r' ∉ s.toList := by
    intro mem
    have special : Style.isSpecial '\r' = true := by decide
    exact absurd special (by simpa using List.any_eq_false.mp ordinary '\r' mem)
  cases style : Style.ofText s with
  | plain =>
      refine unified.after_plain (visible ?_) splits indent
      simp only [Style.ofText] at style
      split at style
      · next allowed => simp_all [Style.allowsPlain]
      · split at style <;> cases style
  | single =>
      refine unified.after_single (visible ?_) splits indent
      simp only [Style.ofText] at style
      split at style
      · cases style
      · split at style
        · next allowed => simp_all [Style.allowsSingle]
        · cases style
  | double => exact unified.after_double splits indent s.toList

end IsUnified

end Pen

section Worded

mutual

/-- Data of texts, truth values and mappings of texts to such data. -/
def Worded : Datum → Prop
  | .scalar .null | .scalar (.boolean _) | .scalar (.text _) => True
  | .map es => WordedEntries es
  | _ => False

def WordedEntries : List (Scalar × Datum) → Prop
  | [] => True
  | (key, d) :: es => (∃ name, key = .text name) ∧ Worded d ∧ WordedEntries es

end

variable {p : Pen}

theorem printScalar_text (unified : p.IsUnified) (outer : Option Nat) (splits : Bool) (s : String) :
    ∃ q, printScalar outer splits (.text s) p = some q ∧ q.IsUnified :=
  ⟨_, rfl, unified.after_styled s splits _⟩

theorem printKey_text (unified : p.IsUnified) (column : Nat) (name : String) :
    ∃ q, printKey column (.text name) p = some q ∧ q.IsUnified := by
  have placed := unified.after_indentTo column
  by_cases simple : isSimpleKey (.text name) = true
  · obtain ⟨q, printed, kept⟩ := printScalar_text placed (some column) false name
    refine ⟨q.mark [':'] false false false, ?_, kept.after_mark (by decide) ..⟩
    simp [printKey, simple, printed]
  · have marked : ((p.indentTo column).mark ['?'] true false true).IsUnified :=
      placed.after_mark (by decide) ..
    obtain ⟨q, printed, kept⟩ := printScalar_text marked (some column) true name
    refine ⟨(q.indentTo column).mark [':'] true false true, ?_,
      (kept.after_indentTo column).after_mark (by decide) ..⟩
    simp [printKey, simple, printed]

mutual

theorem printNode_worded {d : Datum} (worded : Worded d) {p : Pen} (unified : p.IsUnified)
    (outer : Option Nat) (isValue : Bool) :
    ∃ q, printNode outer isValue d p = some q ∧ q.IsUnified := by
  match d with
  | .scalar .null => exact ⟨_, rfl, unified.after_plain (by decide) ..⟩
  | .scalar (.boolean true) => exact ⟨_, rfl, unified.after_plain (by decide) ..⟩
  | .scalar (.boolean false) => exact ⟨_, rfl, unified.after_plain (by decide) ..⟩
  | .scalar (.text s) =>
      rw [printNode]
      exact printScalar_text unified outer true s
  | .map [] =>
      have opened : (p.mark ['\x7b'] true true false).IsUnified := unified.after_mark (by decide) ..
      exact ⟨_, by rw [printNode], opened.after_mark (by decide) ..⟩
  | .map (e :: es) =>
      have printed : printNode outer isValue (.map (e :: es)) p =
          printEntries (deeper outer) (e :: es) p := by simp [printNode]
      have all : WordedEntries (e :: es) := worded
      rw [printed]
      exact printEntries_worded all unified (deeper outer)

theorem printEntries_worded {es : List (Scalar × Datum)} (worded : WordedEntries es) {p : Pen}
    (unified : p.IsUnified) (column : Nat) :
    ∃ q, printEntries column es p = some q ∧ q.IsUnified := by
  match es with
  | [] => exact ⟨p, by rw [printEntries], unified⟩
  | (key, d) :: es =>
      obtain ⟨⟨name, rfl⟩, first, others⟩ := worded
      obtain ⟨keyed, key_eq, unified⟩ := printKey_text unified column name
      obtain ⟨valued, value_eq, unified⟩ := printNode_worded first unified (some column) true
      obtain ⟨q, rest_eq, unified⟩ := printEntries_worded others unified column
      exact ⟨q, by simp [printEntries, key_eq, value_eq, rest_eq], unified⟩

end

theorem print?_worded {es : List (Scalar × Datum)} (worded : WordedEntries es) :
    ∃ text, print? (.map es) = some text ∧ Text.unifyBreaks text.toList = text.toList := by
  have empty : ({} : Pen).IsUnified := ⟨by decide⟩
  obtain ⟨q, printed, unified⟩ := printNode_worded (d := .map es) worded empty none false
  refine ⟨(q.indentTo 0).text, by simp [print?, printed, isOpenEnded], ?_⟩
  apply Text.unifyBreaks_of_notMem
  simpa [Pen.text] using (unified.after_indentTo 0).absent

end Worded

end Yaml

end Formulary
