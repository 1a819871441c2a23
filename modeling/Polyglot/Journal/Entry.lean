/-!
# Journal entries

What the program notes about its work, for whoever reads its log.
-/

namespace Polyglot

inductive Severity where
  | error
  | warn
  | info
  | debug
  deriving DecidableEq

def Severity.name : Severity → String
  | .error => "ERROR"
  | .warn => "WARN"
  | .info => "INFO"
  | .debug => "DEBUG"

structure Entry where
  severity : Severity
  text : String
  deriving DecidableEq

end Polyglot
