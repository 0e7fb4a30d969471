set_option autoImplicit false

namespace Formulary.Text

-- The parts of a text between occurrences of a separator, found from the left. `skip` counts
-- the characters of the last one that are still to be passed over.
def splitFrom (separator : List Char) : Nat → List Char → List Char → List String
  | _, read, [] => [String.ofList read.reverse]
  | skip + 1, read, _ :: cs => splitFrom separator skip read cs
  | 0, read, c :: cs =>
      if separator.isPrefixOf (c :: cs) then
        String.ofList read.reverse :: splitFrom separator (separator.length - 1) [] cs
      else splitFrom separator 0 (c :: read) cs

def split (separator cs : List Char) : List String := splitFrom separator 0 [] cs

end Formulary.Text
