set_option autoImplicit false

namespace Formulary

inductive Level where
  | debug
  | info
  | warning
  | error
  | critical
deriving Repr, DecidableEq

namespace Level

def text : Level → String
  | .debug => "DEBUG"
  | .info => "INFO"
  | .warning => "WARNING"
  | .error => "ERROR"
  | .critical => "CRITICAL"

def severity : Level → Nat
  | .debug => 10
  | .info => 20
  | .warning => 30
  | .error => 40
  | .critical => 50

def every : List Level := [.debug, .info, .warning, .error, .critical]

def ofText? (s : String) : Option Level := every.find? (·.text == s)

end Level

end Formulary
