import Formulary.Proofs.Tokens.Cut
import Formulary.Proofs.Tokens.Pieces
import Formulary.Proofs.Tokens.Substitute

set_option autoImplicit false

namespace Formulary.Token

def front (e : String) (n : Nat) : String := String.join (((tokens e).take n).map text)

theorem quotedAfter_injective {quoted quoted' : Bool} {ts : List Token}
    (same : quotedAfter quoted ts = quotedAfter quoted' ts) : quoted = quoted' := by
  induction ts generalizing quoted quoted' with
  | nil => exact same
  | cons t ts ih =>
      have before := ih same
      by_cases quote : t = .mark .quote
      · simpa [quote] using before
      · simpa [quote] using before

theorem bare_front {read us vs : List Token} (closed : quotedAfter false vs = false)
    (whole : bare false (read ++ us) = vs ++ bare false us) :
    bare false read = vs ∧ quotedAfter false read = false := by
  have quotes : quotedAfter (quotedAfter false read) us = quotedAfter false us := by
    calc quotedAfter (quotedAfter false read) us
        = quotedAfter false (bare false (read ++ us)) := by
          rw [quotedAfter_bare, quotedAfter_append]
      _ = quotedAfter false us := by
          rw [whole, quotedAfter_append, closed, quotedAfter_bare]
  have outside := quotedAfter_injective quotes
  rw [bare_append, outside] at whole
  exact ⟨List.append_cancel_right whole, outside⟩

section Brackets

variable (depth : Nat)

theorem quotedAfter_brackets (quoted : Bool) :
    quotedAfter quoted (List.replicate depth (.mark .rightBracket)) = quoted :=
  quotedAfter_unquoted (by simp) quoted

theorem bare_brackets :
    bare false (List.replicate depth (.mark .rightBracket)) =
      List.replicate depth (.mark .rightBracket) := by
  induction depth with
  | zero => rfl
  | succ depth ih => rw [List.replicate_succ, bare_cons (by decide) (by decide), ih]

end Brackets

theorem tokens_append_space (e : String) : tokens (e ++ " ") = tokens e := by
  have same : normalized (e ++ " ") = normalized e := by
    rw [normalized, normalized, Text.squeeze_trim, Text.squeeze_trim, Text.spaced, Text.spaced,
      String.toList_append]
    have words : Text.words (e.toList ++ [' ']) = Text.words e.toList :=
      Text.words_append_blank Text.isBlank_space
    exact congrArg _ words
  rw [tokens, tokens, same]

theorem join_append (ts us : List Token) :
    String.join ((ts ++ us).map text) = String.join (ts.map text) ++ String.join (us.map text) := by
  rw [List.map_append, String.join_append]

section Front

variable {read us : List Token} (canonical : Canonical (read ++ us))

include canonical in
theorem canonical_front (stop : read.getLast? ≠ some (.mark .space)) : Canonical read where
  words w mem := canonical.words w (List.mem_append_left us mem)
  apart := (List.isChain_append.mp canonical.apart).1
  start := by
    intro head
    apply canonical.start
    rw [List.head?_append, head]
    rfl
  stop := stop

include canonical in
theorem tokens_front : ∃ ts, tokens (String.join (read.map text)) = ts ∧ Canonical ts ∧
    (ts = read ∨ ts ++ [.mark .space] = read) := by
  by_cases stop : read.getLast? = some (.mark .space)
  · obtain ⟨ts, rfl⟩ := List.getLast?_eq_some_iff.mp stop
    have canonical' : Canonical ts := by
      rw [List.append_assoc] at canonical
      apply canonical_front canonical
      intro final
      have apart := (List.isChain_append.mp canonical.apart).2.2 _ final (.mark .space) (by simp)
      exact apart.2 ' ' (by decide) (by decide)
    refine ⟨ts, ?_, canonical', .inr rfl⟩
    have space : String.join ([Token.mark .space].map text) = " " := by rfl
    rw [join_append, space, tokens_append_space, tokens_joined canonical']
  · have canonical' := canonical_front canonical stop
    exact ⟨read, tokens_joined canonical', canonical', .inl rfl⟩

include canonical in
theorem canonical_solid {back : List Token} (solid : ∀ t ∈ back, ∃ m, Solid m ∧ t = .mark m)
    (given : back ≠ []) : Canonical (read ++ back) where
  words w mem := by
    obtain mem | mem := List.mem_append.mp mem
    · exact canonical.words w (List.mem_append_left us mem)
    · obtain ⟨m, -, same⟩ := solid _ mem
      cases same
  apart := by
    have behind (t u : Token) (mem : u ∈ back) : Apart t u := by
      obtain ⟨m, solid, rfl⟩ := solid u mem
      exact solid.apart t
    have inside : back.IsChain Apart := by
      clear solid given
      induction back with
      | nil => exact .nil
      | cons t back ih =>
          refine List.isChain_cons.mpr ⟨fun u head => ?_, ih fun t u mem =>
            behind t u (List.mem_cons_of_mem _ mem)⟩
          exact behind t u (List.mem_cons_of_mem _ (List.mem_of_head? head))
    exact List.isChain_append.mpr ⟨(List.isChain_append.mp canonical.apart).1, inside,
      fun t _ u head => behind t u (List.mem_of_head? head)⟩
  start := by
    cases read with
    | nil =>
        intro head
        obtain ⟨m, solid, same⟩ := solid _ (List.mem_of_head? head)
        cases same
        obtain space | space | space := solid <;> cases space
    | cons t read => exact canonical.start
  stop := by
    rw [List.getLast?_append_of_ne_nil _ given]
    intro final
    obtain ⟨m, solid, same⟩ := solid _ (List.mem_of_getLast? final)
    cases same
    obtain space | space | space := solid <;> cases space

include canonical in
theorem tokens_front_ne_nil (given : read ≠ []) : tokens (String.join (read.map text)) ≠ [] := by
  obtain ⟨ts, alone, -, rfl | rfl⟩ := tokens_front canonical
  · rwa [alone]
  · rw [alone]
    rintro rfl
    exact canonical.start rfl

end Front

end Formulary.Token
