import SpecTest.Log

/-!
How much the program tells, and whether in colours.
-/

namespace SpecTest

inductive Verbosity where
  | quiet
  | normal
  | verbose
  | debug
deriving DecidableEq, Repr, Inhabited

namespace Verbosity

/-- The verbosity that the flag for quiet and the count of the flag for more ask for; quiet wins. -/
def ofFlags (quiet : Bool) (count : Nat) : Verbosity :=
  if quiet then .quiet
  else
    match count with
    | 0 => normal
    | 1 => verbose
    | _ => debug

def isQuiet (v : Verbosity) : Bool := v == quiet

def isVerbose (v : Verbosity) : Bool := v == verbose || v == debug

def shownRank : Verbosity → Nat
  | quiet => LogLevel.warn.rank
  | normal => LogLevel.info.rank
  | verbose => LogLevel.debug.rank
  | debug => LogLevel.debug.rank

def filterName : Verbosity → String
  | quiet => "warn"
  | normal => "info"
  | verbose => "debug"
  | debug => "trace"

def shows (v : Verbosity) (e : LogEvent) : Bool := e.level.rank ≤ v.shownRank

end Verbosity

inductive ColorChoice where
  | always
  | auto
  | never
deriving DecidableEq, Repr, Inhabited

def ColorChoice.isColored (c : ColorChoice) (terminal : Bool) : Bool :=
  match c with
  | always => true
  | auto => terminal
  | never => false

structure OutputSettings where
  verbosity : Verbosity := .normal
  color : ColorChoice := .auto
deriving DecidableEq, Repr, Inhabited

end SpecTest
