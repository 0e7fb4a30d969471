import Formulary.Proofs.Function.Names
import Formulary.Proofs.Reading.Verdict
import Formulary.Proofs.Tokens.Place
import Formulary.Proofs.Tokens.Substitute

set_option autoImplicit false

namespace Formulary

open Tape Rule Token

/-- What stands between these tokens is called: it is outside string literals and has an opening
bracket behind it. -/
structure CallSite (before after : List Token) : Prop where
  outside : quotedAfter false before = false
  opened : (skipSpaces after).head? = some (.mark .leftBracket)

theorem quotedAfter_skipSpaces (quoted : Bool) (ts : List Token) :
    quotedAfter quoted (skipSpaces ts) = quotedAfter quoted ts :=
  skipSpaces_invariant (p := quotedAfter quoted) (fun _ => rfl) ts

theorem skipSpaces_word (before : List Token) (w : String) (after : List Token) :
    skipSpaces (before ++ .word w :: after) = skipSpaces before ++ .word w :: after := by
  unfold skipSpaces
  rw [List.dropWhile_append]
  split
  · rename_i passed
    rw [List.isEmpty_iff.mp passed]
    rfl
  · rfl

theorem CallSite.tail {t : Token} {before after : List Token} (site : CallSite (t :: before) after)
    (unquoted : t ≠ .mark .quote) : CallSite (skipSpaces before) after := by
  refine ⟨?_, site.opened⟩
  have outside := site.outside
  rwa [quotedAfter, if_neg unquoted, ← quotedAfter_skipSpaces] at outside

theorem CallSite.quotation {before after : List Token}
    (site : CallSite (.mark .quote :: before) after) :
    ∃ content others, before = content ++ .mark .quote :: others ∧ .mark .quote ∉ content ∧
      CallSite (skipSpaces others) after := by
  have outside : quotedAfter true before = false := site.outside
  have closed : .mark .quote ∈ before := by
    by_contra unquoted
    rw [quotedAfter_unquoted unquoted] at outside
    cases outside
  obtain ⟨content, others, rfl, unquoted⟩ := List.eq_append_cons_of_mem closed
  rw [quotedAfter_append, quotedAfter_unquoted unquoted] at outside
  refine ⟨content, others, rfl, unquoted, ?_, site.opened⟩
  rwa [quotedAfter_skipSpaces]

/-- A tape beside itself, or beside the tape that has `g` for an `f` that is called. -/
def renamed (f g : String) : Pairing (List Token) (List Token) where
  tapes us vs := us = vs ∨ ∃ before after, CallSite before after ∧
    us = before ++ .word f :: after ∧ vs = before ++ .word g :: after
  faults _ _ := True

section Renamed

variable {f g : String} {us vs : List Token}

theorem agree_renamed_self {α : Type} (r : EStateM.Result Fault (List Token) α) :
    (renamed f g).Agree r r := by
  cases r with
  | ok a s => exact ⟨rfl, .inl rfl⟩
  | error f s => exact ⟨trivial, .inl rfl⟩

theorem renamed_advance (paired : (renamed f g).tapes us vs) {t : Token} (head : us.head? = some t)
    (unquoted : t ≠ .mark .quote) : (renamed f g).tapes (advanced us) (advanced vs) := by
  obtain rfl | ⟨before, after, site, rfl, rfl⟩ := paired
  · exact .inl rfl
  cases before with
  | nil => exact .inl rfl
  | cons u before =>
      obtain rfl : u = t := Option.some.inj head
      refine .inr ⟨skipSpaces before, after, site.tail unquoted, ?_, ?_⟩
      · exact skipSpaces_word before f after
      · exact skipSpaces_word before g after

theorem renamed_empty (paired : (renamed f g).tapes us vs) : us = [] ↔ vs = [] := by
  obtain rfl | ⟨before, after, -, rfl, rfl⟩ := paired
  · rfl
  · simp

theorem renamed_head (paired : (renamed f g).tapes us vs) (m : Separator) :
    us.head? = some (.mark m) ↔ vs.head? = some (.mark m) := by
  obtain rfl | ⟨before, after, -, rfl, rfl⟩ := paired
  · rfl
  · cases before <;> simp

theorem steady_renamed : (renamed f g).Steady where
  faults_refl _ := trivial
  empty paired := (renamed_empty paired).mp
  head paired m _ := renamed_head paired m
  unexpected _ _ := trivial
  advance paired _ _ quote head := renamed_advance paired head (by simpa using quote)
  opening paired head _ := renamed_advance paired head (by decide)
  cut paired := paired

theorem agree_quotation_renamed (paired : (renamed f g).tapes us vs)
    (head : us.head? = some (.mark .quote)) :
    (renamed f g).Agree ((quotation : Cursor (List Token) Value).run us) (quotation.run vs) := by
  obtain rfl | ⟨before, after, site, rfl, rfl⟩ := paired
  · exact agree_renamed_self _
  cases before with
  | nil => cases head
  | cons u before =>
      obtain rfl : u = .mark .quote := Option.some.inj head
      obtain ⟨content, others, rfl, unquoted, site⟩ := site.quotation
      have quoted (w : String) : rest (.mark .quote :: (content ++ .mark .quote :: others) ++
          .word w :: after) = .mark .quote :: (content ++ .mark .quote ::
            (others ++ .word w :: after)) := by simp
      obtain ⟨run, behind⟩ := run_quotation_closed unquoted (quoted f)
      obtain ⟨run', behind'⟩ := run_quotation_closed unquoted (quoted g)
      rw [run, run']
      rw [skipSpaces_word] at behind behind'
      exact ⟨rfl, .inr ⟨skipSpaces others, after, site, behind, behind'⟩⟩

theorem run_named {w : String} (known : (Function.builtIn.find? w).isSome = true)
    {after : List Token} (opened : (skipSpaces after).head? = some (.mark .leftBracket))
    (setting : Setting) (inner : Cursor (List Token) Value) :
    (atom setting inner).run (.word w :: after) =
      (call setting.legacy inner w).run (skipSpaces after) := by
  change (word setting inner w).run (.word w :: after) = _
  rw [word_name (Function.isName_of_known known), identifier, run_bind_ok (run_advance _),
    run_bind_ok (run_atMark _ _), if_pos (by simpa [advanced] using opened)]
  rfl

variable (known : (Function.builtIn.find? f).isSome = true) (same : Text.upper g = Text.upper f)

include known same

theorem run_renamed {after : List Token}
    (opened : (skipSpaces after).head? = some (.mark .leftBracket)) (setting : Setting)
    (inner : Cursor (List Token) Value) :
    (atom setting inner).run (.word g :: after) = (atom setting inner).run (.word f :: after) := by
  have found : Function.builtIn.find? g = Function.builtIn.find? f :=
    Function.builtIn.find?_congr same
  rw [run_named (found ▸ known) opened, run_named known opened, call, call, found]

theorem lockstep_renamed (setting : Setting) :
    (renamed f g).Lockstep (whole setting : Cursor (List Token) Value) (whole setting) := by
  apply lockstep_whole steady_renamed
  intro n h us vs paired
  have one {r : EStateM.Result Fault (List Token) Value}
      (equal : (atom setting (whole setting)).run us = r) :
      ((renamed f g).within (n + 1)).Agree ((atom setting (whole setting)).run us) r := by
    have agree := agree_renamed_self (f := f) (g := g) ((atom setting (whole setting)).run us)
    exact equal ▸ agree.within (shrinks_atom (shrinks_whole _) _) paired.2
  obtain rfl | ⟨before, after, site, rfl, rfl⟩ := paired.1
  · exact one rfl
  cases before with
  | nil => exact one (run_renamed known same site.opened setting (whole setting)).symm
  | cons t before =>
      apply Pairing.agree_atom steady_renamed (shrinks_whole _) (shrinks_whole _) rfl h paired rfl
      · exact fun _ head unquoted => renamed_advance paired.1 head unquoted
      · exact agree_quotation_renamed paired.1
      · intro w head _
        exact ⟨renamed_head (renamed_advance paired.1 head (by simp)) .leftBracket, fun _ => rfl⟩

theorem evaluate_renamed (setting : Setting) {e e' : String} {before after : List Token}
    (site : CallSite before after) (given : tokens e = before ++ .word f :: after)
    (given' : tokens e' = before ++ .word g :: after) :
    evaluate setting e' = evaluate setting e := by
  have paired : (renamed f g).tapes (tokens e) (tokens e') :=
    .inr ⟨before, after, site, given, given'⟩
  rw [evaluate_eq_verdict setting (e := e) (by simp [given]),
    evaluate_eq_verdict setting (e := e') (by simp [given'])]
  exact (verdict_congr renamed_empty (lockstep_renamed known same setting _ _ paired)).symm

end Renamed

/-- Function names ignore case. A catalog is made unless two of its names are the same upper-cased,
and then finds a name exactly if one of them is the same upper-cased, whichever way it is asked. A
call of a function in the catalog, in any expression, has one result for all the ways of writing
the function's name. -/
theorem names_ignore_case :
    (∀ signatures : List Signature, (∀ s ∈ signatures, s.Made) →
      ((∃ e, Catalog.make signatures = .error e) ↔ Clash signatures) ∧
      ∀ c, Catalog.make signatures = .ok c →
        (∀ name,
          (∀ s, c.find? name = some s ↔ s ∈ signatures ∧ Text.upper s.name = Text.upper name) ∧
          (∀ s, c.demand name = .ok s ↔ c.find? name = some s) ∧
          (c.demand name = .error name ↔ c.find? name = none) ∧
          c.contains name = (c.find? name).isSome) ∧
        c.signatures = signatures ∧ c.names = signatures.map Signature.name ∧ c.names.Nodup ∧
          c.size = signatures.length) ∧
    ∀ e before after name, tokens e = before ++ .word name :: after → CallSite before after →
      (Function.builtIn.find? name).isSome = true →
      ∃ front back, e = front ++ name ++ back ∧
        ∀ other, Text.upper other = Text.upper name →
          tokens (front ++ other ++ back) = before ++ .word other :: after ∧
            ∀ setting, evaluate setting (front ++ other ++ back) = evaluate setting e := by
  constructor
  · intro signatures made
    refine ⟨Catalog.make_eq_error.trans (clash_iff made).symm, fun c given => ?_⟩
    obtain ⟨rfl, distinct⟩ := Catalog.make_eq_ok.mp given
    refine ⟨fun name => ⟨fun s => ?_, fun s => c.demand_eq_ok, c.demand_eq_error,
      c.contains_eq name⟩, rfl, rfl, distinct, rfl⟩
    rw [Catalog.find?_eq_some distinct]
    exact and_congr_right fun mem => by rw [(made s mem).upper_name]
  · intro e before after name given site known
    obtain ⟨front, back, whole, placed⟩ := exists_place given
    refine ⟨front, back, whole, fun other same => ?_⟩
    have known' : (Function.builtIn.find? other).isSome = true := by
      rwa [Function.builtIn.find?_congr same]
    have given' := placed other (Function.isWord_of_known known')
    exact ⟨given', fun setting => evaluate_renamed known same setting site given given'⟩

theorem names_ignore_case_long_s :
    let e := "1&Sum ( 2,\"Sum(\" )"
    let before : List Token := [.word "1", .mark .ampersand]
    let after : List Token := [.mark .space, .mark .leftBracket, .mark .space, .word "2",
      .mark .comma, .mark .quote, .word "Sum", .mark .leftBracket, .mark .quote, .mark .space,
      .mark .rightBracket]
    ((∀ s ∈ Function.builtIn.signatures, s.Made) ∧ ¬Clash Function.builtIn.signatures ∧
        Catalog.make Function.builtIn.signatures = .ok Function.builtIn ∧
        Function.builtIn.contains "ſum" = true) ∧
      (tokens e = before ++ .word "Sum" :: after ∧ CallSite before after ∧
        Text.upper "ſum" = Text.upper "Sum") ∧
      ∃ front back, e = front ++ "Sum" ++ back ∧
        tokens (front ++ "ſum" ++ back) = before ++ .word "ſum" :: after ∧
        evaluate ⟨[], false⟩ (front ++ "ſum" ++ back) = evaluate ⟨[], false⟩ e := by
  intro e before after
  have each : ∀ s ∈ Function.builtIn.signatures, s.Made := fun _ => Function.made_of_mem
  have made : Catalog.make Function.builtIn.signatures = .ok Function.builtIn :=
    Catalog.make_eq_ok.mpr ⟨rfl, by decide⟩
  obtain ⟨fails, listed⟩ := names_ignore_case.1 _ each
  have apart : ¬Clash Function.builtIn.signatures := by
    rw [← fails, made]
    nofun
  have found : Function.builtIn.contains "ſum" = true := by
    rw [((listed _ made).1 "ſum").2.2.2]
    decide
  have given : tokens e = before ++ .word "Sum" :: after := by decide
  have site : CallSite before after := ⟨by decide, by decide⟩
  have same : Text.upper "ſum" = Text.upper "Sum" := by decide
  obtain ⟨front, back, whole, placed⟩ :=
    names_ignore_case.2 e before after "Sum" given site (by decide)
  obtain ⟨given', result⟩ := placed "ſum" same
  exact ⟨⟨each, apart, made, found⟩, ⟨given, site, same⟩, front, back, whole, given',
    result ⟨[], false⟩⟩

end Formulary
