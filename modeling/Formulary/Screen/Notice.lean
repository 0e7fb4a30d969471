import Formulary.Screen.Markup
import Formulary.Screen.Wrap

set_option autoImplicit false

namespace Formulary.Screen

def screenWidth : Nat := 80

inductive Notice where
  | error (message : String)
  | success (message : String)
  | information (message : String)

namespace Notice

def front : Notice → String
  | .error _ => "✗ Error: "
  | .success _ => "✓ "
  | .information _ => "ℹ "

def message : Notice → String
  | .error m | .success m | .information m => m

def text (n : Notice) : String :=
  let shown := n.front.toList ++ Markup.literal n.message.toList
  "\n".intercalate ((wrap { room := screenWidth } shown).map String.ofList) ++ "\n"

end Notice

end Formulary.Screen
