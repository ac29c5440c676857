/-!
Events that are logged while the program works.
-/

namespace SpecTest

inductive LogLevel where
  | error
  | warn
  | info
  | debug
deriving DecidableEq, Repr, Inhabited

namespace LogLevel

def name : LogLevel → String
  | error => "ERROR"
  | warn => "WARN"
  | info => "INFO"
  | debug => "DEBUG"

def rank : LogLevel → Nat
  | error => 0
  | warn => 1
  | info => 2
  | debug => 3

end LogLevel

structure LogEvent where
  level : LogLevel
  message : String
deriving DecidableEq, Repr, Inhabited

end SpecTest
