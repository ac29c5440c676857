import SpecTest.Text.Split
import SpecTest.Unicode.Case
import SpecTest.Violation

/-!
What a test expects to happen, as its name tells.
-/

namespace SpecTest

open SpecTest.Text SpecTest.Unicode

inductive Expectation where
  | success
  | preconditionFailure
  | postconditionFailure
  | invariantFailure
deriving DecidableEq, Repr, Inhabited

namespace Expectation

def marker : Expectation → String
  | success => ""
  | preconditionFailure => "expectpreconditionfailure"
  | postconditionFailure => "expectpostconditionfailure"
  | invariantFailure => "expectinvariantfailure"

def isAnnounced (lower : List Char) (e : Expectation) : Bool := containsRun e.marker.toList lower

/-- The expectation of the test with the name: the first failure that it announces. -/
def ofName (name : String) : Expectation :=
  let lower := (lowercaseText name).toList
  if preconditionFailure.isAnnounced lower then preconditionFailure
  else if postconditionFailure.isAnnounced lower then postconditionFailure
  else if invariantFailure.isAnnounced lower then invariantFailure
  else success

def description : Expectation → String
  | success => "success"
  | preconditionFailure => "precondition failure"
  | postconditionFailure => "postcondition failure"
  | invariantFailure => "invariant failure"

def category? : Expectation → Option ViolationCategory
  | success => none
  | preconditionFailure => some .precondition
  | postconditionFailure => some .postcondition
  | invariantFailure => some .invariant

end Expectation

end SpecTest
