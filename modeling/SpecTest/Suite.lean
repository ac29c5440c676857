import SpecTest.Data.Sum
import SpecTest.Timestamp
import SpecTest.Violation

/-!
Suites of tests and their results.
-/

namespace SpecTest

open SpecTest.Data

structure OperationInfo where
  name : String
  arity : UInt64 := 0
deriving DecidableEq, Repr, Inhabited

structure Suite where
  moduleName : String
  tests : List String
deriving DecidableEq, Repr, Inhabited

inductive Verdict where
  | pass
  | fail
  | error
deriving DecidableEq, Repr, Inhabited

namespace Verdict

def label : Verdict → String
  | pass => "PASS"
  | fail => "FAIL"
  | error => "ERRR"

def isPass (v : Verdict) : Bool := v == pass

end Verdict

structure TestResult where
  testName : String
  millis : UInt64
  verdict : Verdict
  message : Option String
deriving DecidableEq, Repr, Inhabited

structure SuiteResult where
  moduleName : String
  timestamp : Timestamp
  results : List TestResult
deriving DecidableEq, Repr, Inhabited

namespace SuiteResult

def count (s : SuiteResult) (v : Verdict) : Nat := (s.results.filter (·.verdict == v)).length

def testCount (s : SuiteResult) : Nat := s.results.length

/-- The time of a suite is added up in one word, which its tests may overflow. -/
def millis? (s : SuiteResult) : Option UInt64 := sumWithin? 0 (s.results.map (·.millis))

def succeeded (s : SuiteResult) : Bool := s.results.all (·.verdict.isPass)

def unsuccessful (s : SuiteResult) : List TestResult := s.results.filter fun r => !r.verdict.isPass

end SuiteResult

structure RunSummary where
  tests : Nat := 0
  failures : Nat := 0
  errors : Nat := 0
deriving DecidableEq, Repr, Inhabited

namespace RunSummary

def ofResults (results : List SuiteResult) : RunSummary :=
  results.foldl (fun acc s => ⟨acc.tests + s.testCount, acc.failures + s.count .fail,
    acc.errors + s.count .error⟩) {}

def succeeded (s : RunSummary) : Bool := s.failures == 0 && s.errors == 0

def text (s : RunSummary) : String :=
  if s.succeeded then "SUCCESS -- " ++ toString s.tests ++ " tests passed"
  else "FAILURE -- " ++ toString s.failures ++ " tests failed, " ++ toString s.errors ++
    " tests had errors [" ++ toString s.tests ++ " tests were run]"

end RunSummary

end SpecTest
