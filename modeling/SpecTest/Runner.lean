import SpecTest.Interpreter
import SpecTest.Log
import SpecTest.Verdict

/-!
Runs of suites by an interpreter.

A run resets the interpreter once, and then enters the context of each suite's module and calls its
tests in order.  No verdict stops it.
-/

namespace SpecTest

inductive RunEvent where
  | suiteStarted (suite : Suite)
  | contextEntered (moduleName : String)
  | testFinished (moduleName : String) (result : TestResult)
deriving DecidableEq, Repr

def qualified (moduleName testName : String) : String := moduleName ++ "`" ++ testName

/-- The event to log when a test is finished: a pass is of less interest. -/
def TestResult.logEvent (r : TestResult) (moduleName : String) : LogEvent :=
  let test := qualified moduleName r.testName
  if r.verdict.isPass then ⟨.debug, "PASS .. " ++ test⟩
  else
    match r.message with
    | some m => ⟨.info, r.verdict.label ++ " .. " ++ test ++ " -- " ++ m⟩
    | none => ⟨.info, r.verdict.label ++ " .. " ++ test⟩

def RunEvent.logEvents : RunEvent → List LogEvent
  | suiteStarted _ => []
  | contextEntered _ => []
  | testFinished moduleName result => [result.logEvent moduleName]

/-- What a run works on: an interpreter, and an observer that is told how far the run is.  They may act
on one state. -/
structure Bench (ω : Type) extends Interpreter ω where
  suiteStarted : Suite → ω → ω
  testFinished : String → TestResult → ω → ω

namespace Bench

variable {ω : Type} (b : Bench ω) (codes : ViolationCodes)

def runTest (moduleName testName : String) (w : ω) : TestResult × ω :=
  let ((outcome, millis), w) := b.invoke testName w
  let result := TestResult.ofOutcome codes testName outcome millis
  (result, b.testFinished moduleName result w)

def runTests (moduleName : String) : List String → ω → List TestResult × ω
  | [], w => ([], w)
  | test :: rest, w =>
    let (result, w) := b.runTest codes moduleName test w
    let (results, w) := runTests moduleName rest w
    (result :: results, w)

def runSuite (timestamp : Timestamp) (suite : Suite) (w : ω) : SuiteResult × ω :=
  let w := b.enter suite.moduleName (b.suiteStarted suite w)
  let (results, w) := b.runTests codes suite.moduleName suite.tests w
  (⟨suite.moduleName, timestamp, results⟩, w)

def runSuites (timestamp : Timestamp) : List Suite → ω → List SuiteResult × ω
  | [], w => ([], w)
  | suite :: rest, w =>
    let (result, w) := b.runSuite codes timestamp suite w
    let (results, w) := runSuites timestamp rest w
    (result :: results, w)

/-- Resets the interpreter and runs the suites, all with the same timestamp. -/
def run (timestamp : Timestamp) (suites : List Suite) (w : ω) :
    Except Failure (List SuiteResult) × ω :=
  match b.reset w with
  | (.error e, w) => (.error e, w)
  | (.ok (), w) =>
    let (results, w) := b.runSuites codes timestamp suites w
    (.ok results, w)

end Bench

/-- The events of a run so far, the last one first, and the state of its interpreter. -/
structure Run (σ : Type) where
  state : σ
  events : List RunEvent := []

namespace Interpreter

variable {σ : Type} (i : Interpreter σ) (codes : ViolationCodes)

/-- The interpreter with an observer that keeps the events. -/
def observed : Bench (Run σ) where
  reset run :=
    let (done, state) := i.reset run.state
    (done, { run with state })
  enter moduleName run :=
    ⟨i.enter moduleName run.state, .contextEntered moduleName :: run.events⟩
  invoke operation run :=
    let (answer, state) := i.invoke operation run.state
    (answer, { run with state })
  suiteStarted suite run := { run with events := .suiteStarted suite :: run.events }
  testFinished moduleName result run :=
    { run with events := .testFinished moduleName result :: run.events }

def runTest (moduleName testName : String) (run : Run σ) : TestResult × Run σ :=
  i.observed.runTest codes moduleName testName run

def runTests (moduleName : String) (tests : List String) (run : Run σ) : List TestResult × Run σ :=
  i.observed.runTests codes moduleName tests run

def runSuite (timestamp : Timestamp) (suite : Suite) (run : Run σ) : SuiteResult × Run σ :=
  i.observed.runSuite codes timestamp suite run

def runSuites (timestamp : Timestamp) (suites : List Suite) (run : Run σ) :
    List SuiteResult × Run σ :=
  i.observed.runSuites codes timestamp suites run

def run (timestamp : Timestamp) (suites : List Suite) (state : σ) :
    Except Failure (List SuiteResult) × Run σ :=
  i.observed.run codes timestamp suites { state }

end Interpreter

end SpecTest
