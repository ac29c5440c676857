import SpecTest.Failure
import SpecTest.Markup.Escape
import SpecTest.Suite

/-!
The results of a suite as a JUnit document.
-/

namespace SpecTest.Report

open SpecTest.Markup SpecTest.Text

def secondsText (millis : UInt64) : String :=
  toString (millis.toNat / 1000) ++ "." ++ padded 3 (millis.toNat % 1000)

def problemTag? : Verdict → Option String
  | .pass => none
  | .fail => some "failure"
  | .error => some "error"

def testCase (moduleName : String) (r : TestResult) : String :=
  let start := "  <testcase" ++ attr "name" r.testName ++ attr "classname" moduleName ++
    attr "time" (secondsText r.millis)
  match problemTag? r.verdict with
  | none => start ++ "/>\n"
  | some tag => start ++ ">\n    <" ++ tag ++ attr "message" (r.message.getD "") ++
      "/>\n  </testcase>\n"

/-- The document of a suite that took these milliseconds. -/
def junitText (s : SuiteResult) (millis : UInt64) (hostname : String) : String :=
  let start := declaration ++ "<testsuite" ++ attr "name" s.moduleName ++
    attr "tests" (toString s.testCount) ++
    attr "failures" (toString (s.count .fail)) ++
    attr "errors" (toString (s.count .error)) ++
    attr "time" (secondsText millis) ++
    attr "timestamp" s.timestamp.plainText ++
    attr "hostname" hostname
  if s.results.isEmpty then start ++ "/>\n"
  else start ++ ">\n" ++ String.join (s.results.map (testCase s.moduleName)) ++ "</testsuite>\n"

/-- There is no document where the times of the tests do not add up within a word. -/
def junit (s : SuiteResult) (hostname : String) : Except Failure String :=
  match s.millis? with
  | some millis => .ok (junitText s millis hostname)
  | none => .error .timeOverflow

def junitFileName (moduleName : String) : String := "TEST-" ++ moduleName ++ ".xml"

end SpecTest.Report
