import Formulary.Text.Quoted

set_option autoImplicit false

namespace Formulary

inductive Defect where
  | notBoolean
  | unreadableBoolean
  | notNumber
  | notText
  | unreadableText
  | notPath
  | notSection (name : String)
  | notListed (choices : List String)
  | unknownField
  | noAttribute (name : String)
  | rejected (reason : String)
deriving Repr, DecidableEq

structure Issue where
  location : List String
  defect : Defect
deriving Repr, DecidableEq

namespace Defect

def code : Defect → String
  | .notBoolean => "bool_type"
  | .unreadableBoolean => "bool_parsing"
  | .notNumber => "float_type"
  | .notText => "string_type"
  | .unreadableText => "string_unicode"
  | .notPath => "path_type"
  | .notSection _ => "model_type"
  | .notListed _ => "literal_error"
  | .unknownField => "extra_forbidden"
  | .noAttribute _ => "no_such_attribute"
  | .rejected _ => "value_error"

def alternatives (choices : List String) : String :=
  let shown := choices.map fun c => "'" ++ c ++ "'"
  match shown.reverse with
  | [] => ""
  | [one] => one
  | last :: others => ", ".intercalate others.reverse ++ " or " ++ last

def message : Defect → String
  | .notBoolean => "Input should be a valid boolean"
  | .unreadableBoolean => "Input should be a valid boolean, unable to interpret input"
  | .notNumber => "Input should be a valid number"
  | .notText => "Input should be a valid string"
  | .unreadableText =>
      "Input should be a valid string, unable to parse raw data as a unicode string"
  | .notPath => "Input is not a valid path for <class 'pathlib.Path'>"
  | .notSection name => "Input should be a valid dictionary or instance of " ++ name
  | .notListed choices => "Input should be " ++ alternatives choices
  | .unknownField => "Extra inputs are not permitted"
  | .noAttribute name => "Object has no attribute '" ++ name ++ "'"
  | .rejected reason => "Value error, " ++ reason

end Defect

def Issue.text (i : Issue) : String := ".".intercalate i.location ++ ": " ++ i.defect.message

end Formulary
