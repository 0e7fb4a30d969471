import Formulary.Text.DigitTable

set_option autoImplicit false

namespace Formulary.Text

def decimalDigit? (c : Char) : Option Nat :=
  (zeroDigits.find? fun first => first ≤ c.toNat && c.toNat < first + 10).map (c.toNat - ·)

end Formulary.Text
