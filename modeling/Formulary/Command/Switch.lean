import Formulary.Text.Quoted
import Formulary.Text.Similar

set_option autoImplicit false

namespace Formulary.Command

inductive Key where
  | help
  | version
  | configFile
  | profile
  | verbose
  | quiet
  | variable
  | scopeFile
  | debug
  | noDebug
  | strict
  | format
deriving Repr, DecidableEq

structure Switch where
  key : Key
  names : List String
  takesValue : Bool := false
deriving Repr, DecidableEq

inductive Misuse where
  | noSuchOption (name : String) (similar : List String)
  | needsValue (name : String)
  | takesNoValue (name : String)
  | missingArgument (name : String)
  | extraArguments (texts : List String)
  | missingCommand
  | noSuchCommand (name : String) (similar : List String)
  | missingFile (names : List String) (path : String)
  | isDirectory (names : List String) (path : String)
  | notListed (names : List String) (text : String) (choices : List String)
  | badBinding (message : String)
deriving Repr, DecidableEq

namespace Misuse

def commas (xs : List String) : String := ", ".intercalate (xs.map Text.quoted)

def hint (kind : String) (similar : List String) : String :=
  match similar with
  | [] => ""
  | [one] => " Did you mean " ++ Text.quoted one ++ "?"
  | many => " (Possible " ++ kind ++ ": " ++ commas many ++ ")"

def badValue (names : List String) (reason : String) : String :=
  "Invalid value for " ++ " / ".intercalate (names.map fun n => "'" ++ n ++ "'") ++ ": " ++ reason

def message : Misuse → String
  | .noSuchOption name similar =>
      "No such option " ++ Text.quoted name ++ "." ++ hint "options" similar
  | .needsValue name => "Option " ++ Text.quoted name ++ " requires an argument."
  | .takesNoValue name => "Option " ++ Text.quoted name ++ " does not take a value."
  | .missingArgument name => "Missing argument '" ++ name ++ "'."
  | .extraArguments [text] => "Got unexpected extra argument (" ++ text ++ ")"
  | .extraArguments texts => "Got unexpected extra arguments (" ++ " ".intercalate texts ++ ")"
  | .missingCommand => "Missing command."
  | .noSuchCommand name similar =>
      "No such command " ++ Text.quoted name ++ "." ++ hint "commands" similar
  | .missingFile names path => badValue names ("File " ++ Text.quoted path ++ " does not exist.")
  | .isDirectory names path => badValue names ("File " ++ Text.quoted path ++ " is a directory.")
  | .notListed names text choices =>
      badValue names (Text.quoted text ++ " is not one of " ++ commas choices ++ ".")
  | .badBinding message => message

def isBare : Misuse → Bool
  | .needsValue _ | .takesNoValue _ => true
  | _ => false

end Misuse

structure Given where
  key : Key
  value : Option String
deriving Repr, DecidableEq

structure Line where
  given : List Given := []
  rest : List String := []
deriving Repr, DecidableEq

namespace Line

def isLong (name : String) : Bool := 2 < name.length

def find? (switches : List Switch) (name : String) : Option Switch :=
  switches.find? fun s => s.names.contains name

def longNames (switches : List Switch) : List String :=
  (switches.flatMap Switch.names).filter isLong

structure Reading where
  given : List Given
  waiting : Option (Key × String) := none
deriving Repr, DecidableEq

def readShort (switches : List Switch) : List Char → Except Misuse Reading
  | [] => .ok ⟨[], none⟩
  | c :: cs =>
      let name := String.ofList ['-', c]
      match find? switches name with
      | none => .error (.noSuchOption name [])
      | some s =>
          if s.takesValue then
            if cs = [] then .ok ⟨[], some (s.key, name)⟩
            else .ok ⟨[⟨s.key, some (String.ofList cs)⟩], none⟩
          else do
            let more ← readShort switches cs
            return { more with given := ⟨s.key, none⟩ :: more.given }

def afterEquals (text : String) : Option String :=
  match text.toList.dropWhile (· != '=') with
  | _ :: value => some (String.ofList value)
  | [] => none

def beforeEquals (text : String) : String := String.ofList (text.toList.takeWhile (· != '='))

@[irreducible]
def read (switches : List Switch) (text : String) : Except Misuse Reading :=
  let name := beforeEquals text
  match (if isLong name then find? switches name else none), afterEquals text with
  | some s, some value =>
      if s.takesValue then .ok ⟨[⟨s.key, some value⟩], none⟩ else .error (.takesNoValue name)
  | some s, none =>
      if s.takesValue then .ok ⟨[], some (s.key, name)⟩ else .ok ⟨[⟨s.key, none⟩], none⟩
  | none, _ =>
      if "--".toList.isPrefixOf text.toList then
        .error (.noSuchOption name (Text.similar name (longNames switches)))
      else readShort switches text.toList.tail

def isSwitch (text : String) : Bool := text.toList.head? == some '-' && text != "-"

def addGiven (given : List Given) (line : Line) : Line := { line with given := given ++ line.given }

-- Two dashes end the switches. So does the first other argument, unless switches may stand
-- behind those.
def scan (switches : List Switch) (mixed : Bool) : List String → Except Misuse Line
  | [] => .ok {}
  | text :: rest =>
      if text = "--" then .ok { rest := rest }
      else if isSwitch text then
        match read switches text with
        | .error m => .error m
        | .ok ⟨given, none⟩ => (scan switches mixed rest).map (addGiven given)
        | .ok ⟨given, some (key, name)⟩ =>
            match rest with
            | [] => .error (.needsValue name)
            | value :: rest =>
                (scan switches mixed rest).map (addGiven (given ++ [⟨key, some value⟩]))
      else if mixed then
        (scan switches mixed rest).map fun line => { line with rest := text :: line.rest }
      else .ok { rest := text :: rest }

def has (line : Line) (key : Key) : Bool := line.given.any (·.key == key)

def values (line : Line) (key : Key) : List String :=
  line.given.filterMap fun g => if g.key = key then g.value else none

def value? (line : Line) (key : Key) : Option String := (line.values key).getLast?

def first? (line : Line) (keys : List Key) : Option Key :=
  (line.given.find? fun g => keys.contains g.key).map Given.key

end Line

end Formulary.Command
