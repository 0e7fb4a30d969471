set_option autoImplicit false

namespace Formulary.Yaml

inductive Flaw where
  | malformed
  | outOfKind
  | tooLarge
  | noDigits
  | noTruthWord
  | noMoment
  -- The code of a surrogate, which no text here can hold.
  | surrogate
deriving Repr, DecidableEq

end Formulary.Yaml
