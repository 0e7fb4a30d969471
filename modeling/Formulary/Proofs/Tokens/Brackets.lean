import Formulary.Proofs.Reading.Spaces

set_option autoImplicit false

namespace Formulary.Token

/-- Whether every bracket outside string literals has a partner, `depth` of them being open. -/
def closes : Bool → Nat → List Token → Bool
  | _, depth, [] => depth == 0
  | quoted, depth, .mark .quote :: ts => closes (!quoted) depth ts
  | false, depth, .mark .leftBracket :: ts => closes false (depth + 1) ts
  | false, 0, .mark .rightBracket :: _ => false
  | false, depth + 1, .mark .rightBracket :: ts => closes false depth ts
  | quoted, depth, _ :: ts => closes quoted depth ts

theorem closes_quote (quoted : Bool) (depth : Nat) (ts : List Token) :
    closes quoted depth (.mark .quote :: ts) = closes (!quoted) depth ts := by
  simp [closes]

theorem closes_left (depth : Nat) (ts : List Token) :
    closes false depth (.mark .leftBracket :: ts) = closes false (depth + 1) ts := by
  simp [closes]

theorem closes_right (depth : Nat) (ts : List Token) :
    closes false (depth + 1) (.mark .rightBracket :: ts) = closes false depth ts := by
  simp [closes]

theorem closes_early (ts : List Token) :
    closes false 0 (.mark .rightBracket :: ts) = false := by
  simp [closes]

theorem closes_inside {t : Token} (unquoted : t ≠ .mark .quote) (depth : Nat) (ts : List Token) :
    closes true depth (t :: ts) = closes true depth ts := by
  cases t with
  | word w => simp [closes]
  | mark m => cases m <;> first | exact absurd rfl unquoted | simp [closes]

def Neutral (t : Token) : Prop :=
  t ≠ .mark .quote ∧ t ≠ .mark .leftBracket ∧ t ≠ .mark .rightBracket

theorem closes_neutral {t : Token} (neutral : Neutral t) (quoted : Bool) (depth : Nat)
    (ts : List Token) : closes quoted depth (t :: ts) = closes quoted depth ts := by
  obtain ⟨unquoted, noLeft, noRight⟩ := neutral
  cases t with
  | word w => simp [closes]
  | mark m =>
      cases m <;> first
        | exact absurd rfl unquoted
        | exact absurd rfl noLeft
        | exact absurd rfl noRight
        | simp [closes]

theorem neutral_word (w : String) : Neutral (.word w) := by simp [Neutral]

theorem closes_unquoted {content : List Token} (unquoted : .mark .quote ∉ content) (depth : Nat)
    (ts : List Token) : closes true depth (content ++ ts) = closes true depth ts := by
  induction content with
  | nil => rfl
  | cons t content ih =>
      simp only [List.mem_cons, not_or] at unquoted
      rw [List.cons_append, closes_inside (Ne.symm unquoted.1), ih unquoted.2]

theorem closes_skipSpaces (depth : Nat) (ts : List Token) :
    closes false depth (Rule.skipSpaces ts) = closes false depth ts :=
  Rule.skipSpaces_invariant (fun _ => closes_neutral (by simp [Neutral]) ..) ts

theorem closes_quotation {content : List Token} (unquoted : .mark .quote ∉ content) (depth : Nat)
    (ts : List Token) :
    closes false depth (.mark .quote :: (content ++ .mark .quote :: ts)) =
      closes false depth ts := by
  rw [closes_quote, Bool.not_false, closes_unquoted unquoted, closes_quote, Bool.not_true]

theorem closes_bare (quoted : Bool) (depth : Nat) (ts : List Token) :
    closes quoted depth (bare quoted ts) = closes quoted depth ts := by
  induction ts generalizing quoted depth with
  | nil => rfl
  | cons t ts ih =>
      by_cases quote : t = .mark .quote
      · rw [quote, bare_quote, closes_quote, closes_quote, ih]
      cases quoted with
      | true => rw [bare_inside quote, closes_inside quote, closes_inside quote, ih]
      | false =>
          by_cases space : t = .mark .space
          · rw [space, bare_space, closes_neutral (by simp [Neutral]), ih]
          rw [bare_cons quote space]
          by_cases left : t = .mark .leftBracket
          · rw [left, closes_left, closes_left, ih]
          by_cases right : t = .mark .rightBracket
          · subst right
            cases depth with
            | zero => rw [closes_early, closes_early]
            | succ depth => rw [closes_right, closes_right, ih]
          rw [closes_neutral ⟨quote, left, right⟩, closes_neutral ⟨quote, left, right⟩, ih]

def Balanced (ts : List Token) : Prop := closes false 0 ts = true

end Formulary.Token
