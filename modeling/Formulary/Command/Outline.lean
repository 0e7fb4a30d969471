import Formulary.Command.Switch

set_option autoImplicit false

namespace Formulary

inductive Action where
  | evaluate
  | functions
  | profiles
  | show
  | validate
deriving Repr, DecidableEq

inductive Command where
  | root
  | config
  | action (a : Action)
deriving Repr, DecidableEq

namespace Command

def programName : String := "sheetcalc"

def names : Command → List String
  | .root => []
  | .config => ["config"]
  | .action .evaluate => ["eval"]
  | .action .functions => ["functions"]
  | .action .profiles => ["config", "profiles"]
  | .action .show => ["config", "show"]
  | .action .validate => ["config", "validate"]

def path (c : Command) : String := " ".intercalate (programName :: c.names)

def isGroup : Command → Bool
  | .root | .config => true
  | .action _ => false

def ofRoot : List (String × Option Action) :=
  [("config", none), ("eval", some .evaluate), ("functions", some .functions)]

def ofConfig : List (String × Action) :=
  [("profiles", .profiles), ("show", .show), ("validate", .validate)]

def argumentName : String := "EXPRESSION"

def takesExpression : Command → Bool
  | .action .evaluate => true
  | _ => false

def usage (c : Command) : String :=
  "Usage: " ++ c.path ++ " [OPTIONS]" ++
    if c.isGroup then " COMMAND [ARGS]..."
    else if c.takesExpression then " " ++ argumentName
    else ""

def configFile : Switch :=
  { key := .configFile, names := ["--config-file", "-c"], takesValue := true }

def profile : Switch := { key := .profile, names := ["--profile", "-p"], takesValue := true }

def format : Switch := { key := .format, names := ["--format", "-f"], takesValue := true }

def scopeFile : Switch := { key := .scopeFile, names := ["--scope-file", "-s"], takesValue := true }

def help : Switch := { key := .help, names := ["--help"] }

def ownSwitches : Command → List Switch
  | .root => [
      { key := .version, names := ["--version"] }, configFile, profile,
      { key := .verbose, names := ["--verbose", "-v"] },
      { key := .quiet, names := ["--quiet", "-q"] }]
  | .action .evaluate => [
      { key := .variable, names := ["--var", "-V"], takesValue := true }, scopeFile,
      { key := .debug, names := ["--debug"] }, { key := .noDebug, names := ["--no-debug"] },
      { key := .strict, names := ["--strict"] }]
  | .action .show => [format]
  | .action .validate => [configFile]
  | .config | .action .functions | .action .profiles => []

def switches (c : Command) : List Switch := c.ownSwitches ++ [help]

end Command

end Formulary
