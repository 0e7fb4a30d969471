import Formulary.Log.Level
import Formulary.Text.Quoted

set_option autoImplicit false

namespace Formulary

structure InterpreterSettings where
  debug : Bool := false
  legacyArgumentErrors : Bool := false
deriving Repr, DecidableEq

structure LoggingSettings where
  level : Level := .warning
  format : String := "%(asctime)s - %(name)s - %(levelname)s - %(message)s"
  -- A path in normal form.
  file : Option String := none
  console : Bool := true
deriving Repr, DecidableEq

structure Settings where
  profile : String := "default"
  interpreter : InterpreterSettings := {}
  logging : LoggingSettings := {}
deriving Repr, DecidableEq

namespace Settings

def forDevelopment : Settings :=
  { profile := "dev", interpreter := { debug := true }, logging := { level := .debug } }

def forProduction : Settings := {
  profile := "prod"
  logging := { level := .error, format := "%(asctime)s %(levelname)s %(name)s: %(message)s" } }

def forTests : Settings :=
  { profile := "test", logging := { level := .critical, console := false } }

def profiles : List Settings := [{}, forDevelopment, forProduction, forTests]

def profileNames : List String := profiles.map (·.profile)

def named? (name : String) : Option Settings := profiles.find? (·.profile == name)

end Settings

end Formulary
