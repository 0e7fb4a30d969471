import Formulary.Yaml.Content

set_option autoImplicit false

namespace Formulary.Yaml

section Compared

-- Floats have no equality that could be decided, so data is compared where it has none of them.

def sameScalar : Scalar → Scalar → Bool
  | .null, .null => true
  | .boolean a, .boolean b => a == b
  | .integer a, .integer b => a == b
  | .text a, .text b => a == b
  | _, _ => false

mutual

def sameData : Datum → Datum → Bool
  | .scalar a, .scalar b => sameScalar a b
  | .map as, .map bs => sameEntries as bs
  | _, _ => false

def sameEntries : List (Scalar × Datum) → List (Scalar × Datum) → Bool
  | [], [] => true
  | (key, a) :: as, (other, b) :: bs => sameScalar key other && sameData a b && sameEntries as bs
  | _, _ => false

end

theorem eq_of_sameScalar {a b : Scalar} (same : sameScalar a b = true) : a = b := by
  cases a <;> cases b <;> simp_all [sameScalar]

mutual

theorem eq_of_sameData : {a b : Datum} → sameData a b = true → a = b
  | .scalar _, .scalar _, same => congrArg Datum.scalar (eq_of_sameScalar same)
  | .map _, .map _, same => congrArg Datum.map (eq_of_sameEntries same)

theorem eq_of_sameEntries :
    {as bs : List (Scalar × Datum)} → sameEntries as bs = true → as = bs
  | [], [], _ => rfl
  | (key, a) :: as, (other, b) :: bs, same => by
      simp only [sameEntries, Bool.and_eq_true] at same
      obtain ⟨⟨keys, first⟩, others⟩ := same
      rw [eq_of_sameScalar keys, eq_of_sameData first, eq_of_sameEntries others]

end

end Compared

section Staged

def ofTokens (tokens : List Token) : Except Flaw Datum := do
  let fuel := 4 * tokens.length + 4
  match ← ((Node.document fuel).run { stream := ⟨tokens, none⟩ }).map Prod.fst with
  | none => return .null
  | some n => n.datum

theorem load_of_tokens {cs : List Char} {tokens : List Token} {d : Datum}
    (read : Stream.ofText cs = ⟨tokens, none⟩)
    (built : (ofTokens tokens).toOption.any (sameData · d) = true) : load cs = .ok d := by
  have staged : load cs = ofTokens tokens := by
    rw [load, Node.ofText?, read]
    rfl
  cases found : ofTokens tokens with
  | error flaw => simp [found, Except.toOption] at built
  | ok other =>
      rw [found] at built
      rw [staged, found, eq_of_sameData built]

end Staged

end Formulary.Yaml
