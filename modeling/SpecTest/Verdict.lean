import SpecTest.Expectation
import SpecTest.Suite

/-!
The judgement on the outcome of a test.
-/

namespace SpecTest

namespace Expectation

/-- The verdict on an outcome under the expectation, with a message unless it is a pass.  A violated
postcondition that was not expected is a failure of the specification; any other unexpected
violation is an error of the test. -/
def judge (e : Expectation) (o : Outcome) (codes : ViolationCodes) : Verdict × Option String :=
  match o with
  | .returned =>
    if e = success then (.pass, none)
    else (.fail, some ("test passed, but expected " ++ e.description))
  | .violated v =>
    let category := codes.categoryOf v.code
    if e.category? = some category then (.pass, none)
    else if category = .postcondition then (.fail, some v.message)
    else (.error, some v.message)

end Expectation

def TestResult.ofOutcome (codes : ViolationCodes) (testName : String) (outcome : Outcome)
    (millis : UInt64) : TestResult :=
  let judged := (Expectation.ofName testName).judge outcome codes
  ⟨testName, millis, judged.1, judged.2⟩

end SpecTest
