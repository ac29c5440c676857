import Mathlib.Data.List.Forall2
import SpecTest.Runner

/-!
The protocol of a run.

A run does the same on every bench: it resets the interpreter and then takes the suites and their tests in
order, whatever the interpreter answers.  A bench that keeps a trace tells this order.
-/

namespace SpecTest

/-- What the call of a test gave, and the milliseconds that it took. -/
abbrev Answer := Outcome × UInt64

/-- What is done on a bench: a call of the interpreter with its answer, or a word to the observer. -/
inductive RunStep where
  | reset (answer : Except Failure Unit)
  | enter (moduleName : String)
  | invoke (test : String) (answer : Answer)
  | suiteStarted (suite : Suite)
  | testFinished (moduleName : String) (result : TestResult)
deriving DecidableEq

section Protocol

variable (codes : ViolationCodes)

/-- The result of a test with an answer: its name tells what is expected, and this judges the answer. -/
def TestResult.ofAnswer (test : String × Answer) : TestResult where
  testName := test.1
  millis := test.2.2
  verdict := ((Expectation.ofName test.1).judge test.2.1 codes).1
  message := ((Expectation.ofName test.1).judge test.2.1 codes).2

/-- The steps of a test: it is called, and its result is told before anything else is done. -/
def testSteps (moduleName : String) (test : String × Answer) : List RunStep :=
  [.invoke test.1 test.2, .testFinished moduleName (.ofAnswer codes test)]

/-- The steps of a suite, given its tests with the answers to their calls. -/
def Suite.steps (suite : Suite) (asked : List (String × Answer)) : List RunStep :=
  .suiteStarted suite :: .enter suite.moduleName :: asked.flatMap (testSteps codes suite.moduleName)

def Suite.answered (timestamp : Timestamp) (suite : Suite) (asked : List (String × Answer)) :
    SuiteResult :=
  ⟨suite.moduleName, timestamp, asked.map (.ofAnswer codes)⟩

/-- Does the result name the test, and judge its answer by what the name expects? -/
structure TestResult.Judges (test : String × Answer) (r : TestResult) : Prop where
  name : r.testName = test.1
  millis : r.millis = test.2.2
  judged : (r.verdict, r.message) = (Expectation.ofName test.1).judge test.2.1 codes

/-- Does the result name the suite, and hold the results of its tests in their order? -/
structure SuiteResult.Judges (timestamp : Timestamp) (s : Suite × List (String × Answer)) (r : SuiteResult) :
    Prop where
  name : r.moduleName = s.1.moduleName
  timestamp : r.timestamp = timestamp
  tests : List.Forall₂ (TestResult.Judges codes) s.2 r.results

variable {codes} {timestamp : Timestamp}

theorem Suite.answered_judges (suite : Suite) (asked : List (String × Answer)) :
    SuiteResult.Judges codes timestamp (suite, asked) (suite.answered codes timestamp asked) := by
  refine ⟨rfl, rfl, ?_⟩
  rw [answered, List.forall₂_map_right_iff, List.forall₂_same]
  exact fun _ _ => ⟨rfl, rfl, rfl⟩

end Protocol

namespace Bench

variable {ω : Type}

/-- The bench with a trace of what is done on it. -/
def traced (b : Bench ω) : Bench (ω × List RunStep) where
  reset w := ((b.reset w.1).1, (b.reset w.1).2, w.2 ++ [.reset (b.reset w.1).1])
  enter moduleName w := (b.enter moduleName w.1, w.2 ++ [.enter moduleName])
  invoke test w :=
    ((b.invoke test w.1).1, (b.invoke test w.1).2, w.2 ++ [.invoke test (b.invoke test w.1).1])
  suiteStarted suite w := (b.suiteStarted suite w.1, w.2 ++ [.suiteStarted suite])
  testFinished moduleName result w :=
    (b.testFinished moduleName result w.1, w.2 ++ [.testFinished moduleName result])

variable (b : Bench ω) (codes : ViolationCodes) (timestamp : Timestamp)

theorem traced_runTest (moduleName test : String) (w : ω) (before : List RunStep) :
    b.traced.runTest codes moduleName test (w, before) =
      ((b.runTest codes moduleName test w).1, (b.runTest codes moduleName test w).2,
        before ++ testSteps codes moduleName (test, (b.invoke test w).1)) := by
  simp [runTest, traced, testSteps, TestResult.ofAnswer, TestResult.ofOutcome]

theorem traced_runTests (moduleName : String) (tests : List String) (w : ω) (before : List RunStep) :
    ∃ asked : List (String × Answer), asked.map (·.1) = tests ∧
      (b.runTests codes moduleName tests w).1 = asked.map (.ofAnswer codes) ∧
      b.traced.runTests codes moduleName tests (w, before) =
        ((b.runTests codes moduleName tests w).1, (b.runTests codes moduleName tests w).2,
          before ++ asked.flatMap (testSteps codes moduleName)) := by
  induction tests generalizing w before with
  | nil => exact ⟨[], rfl, rfl, by simp [runTests]⟩
  | cons test rest ih =>
      obtain ⟨asked, named, results, steps⟩ := ih (b.runTest codes moduleName test w).2
        (before ++ testSteps codes moduleName (test, (b.invoke test w).1))
      refine ⟨(test, (b.invoke test w).1) :: asked, by rw [List.map_cons, named], ?_, ?_⟩
      · rw [List.map_cons, ← results]
        rfl
      · simp only [runTests, traced_runTest, steps, List.flatMap_cons, List.append_assoc]

theorem traced_runSuite (suite : Suite) (w : ω) (before : List RunStep) :
    ∃ asked : List (String × Answer), asked.map (·.1) = suite.tests ∧
      (b.runSuite codes timestamp suite w).1 = suite.answered codes timestamp asked ∧
      b.traced.runSuite codes timestamp suite (w, before) =
        ((b.runSuite codes timestamp suite w).1, (b.runSuite codes timestamp suite w).2,
          before ++ suite.steps codes asked) := by
  have entered : b.traced.enter suite.moduleName (b.traced.suiteStarted suite (w, before)) =
      (b.enter suite.moduleName (b.suiteStarted suite w),
        before ++ [.suiteStarted suite, .enter suite.moduleName]) := by
    simp [traced]
  obtain ⟨asked, named, results, steps⟩ := b.traced_runTests codes suite.moduleName suite.tests
    (b.enter suite.moduleName (b.suiteStarted suite w))
    (before ++ [.suiteStarted suite, .enter suite.moduleName])
  refine ⟨asked, named, congrArg (SuiteResult.mk suite.moduleName timestamp) results, ?_⟩
  simp only [runSuite, entered, steps, Suite.steps, List.append_assoc, List.cons_append,
    List.nil_append]

theorem traced_runSuites (suites : List Suite) (w : ω) (before : List RunStep) :
    ∃ asked : List (Suite × List (String × Answer)), asked.map (·.1) = suites ∧
      (∀ s ∈ asked, s.2.map (·.1) = s.1.tests) ∧
      (b.runSuites codes timestamp suites w).1 = asked.map (fun s => s.1.answered codes timestamp s.2) ∧
      b.traced.runSuites codes timestamp suites (w, before) =
        ((b.runSuites codes timestamp suites w).1, (b.runSuites codes timestamp suites w).2,
          before ++ asked.flatMap fun s => s.1.steps codes s.2) := by
  induction suites generalizing w before with
  | nil => exact ⟨[], rfl, by simp, rfl, by simp [runSuites]⟩
  | cons suite rest ih =>
      obtain ⟨tests, named, result, first⟩ := b.traced_runSuite codes timestamp suite w before
      obtain ⟨asked, inOrder, allNamed, results, later⟩ :=
        ih (b.runSuite codes timestamp suite w).2 (before ++ suite.steps codes tests)
      refine ⟨(suite, tests) :: asked, by rw [List.map_cons, inOrder],
        List.forall_mem_cons.mpr ⟨named, allNamed⟩, ?_, ?_⟩
      · rw [List.map_cons, ← results, ← result]
        rfl
      · simp only [runSuites, first, later, List.flatMap_cons, List.append_assoc]

/-- What a run gives, and what it does from the first step to the last. -/
structure Performs (suites : List Suite) (w : ω) (gives : Except Failure (List SuiteResult))
    (trace : List RunStep) : Prop where
  failed : ∀ e, (b.reset w).1 = .error e → gives = .error e ∧ trace = [.reset (.error e)]
  ready : (b.reset w).1 = .ok () → ∃ (asked : List (Suite × List (String × Answer))) (results : List SuiteResult),
    asked.map (·.1) = suites ∧ (∀ s ∈ asked, s.2.map (·.1) = s.1.tests) ∧
    gives = .ok results ∧ List.Forall₂ (SuiteResult.Judges codes timestamp) asked results ∧
    trace = .reset (.ok ()) :: asked.flatMap fun s => s.1.steps codes s.2

/-- A run resets the interpreter once, before all else, and does nothing else where that fails.  Otherwise it
takes the suites in turn: it tells the observer, enters the module, and for each test makes one call and
tells the judgement on the answer, whatever that is.  Keeping the trace changes nothing. -/
theorem run_performs (suites : List Suite) (w : ω) : ∃ trace,
    b.traced.run codes timestamp suites (w, []) =
      ((b.run codes timestamp suites w).1, (b.run codes timestamp suites w).2, trace) ∧
    b.Performs codes timestamp suites w (b.run codes timestamp suites w).1 trace := by
  have tracedReset : b.traced.reset (w, []) =
      ((b.reset w).1, (b.reset w).2, [.reset (b.reset w).1]) := rfl
  rcases answer : b.reset w with ⟨done, v⟩
  rw [answer] at tracedReset
  cases done with
  | error e =>
      refine ⟨[.reset (.error e)], ?_, ⟨?_, ?_⟩⟩
      · rw [run, run, tracedReset, answer]
      · intro e' failed
        rw [answer] at failed
        cases failed
        exact ⟨by rw [run, answer], rfl⟩
      · intro ready
        rw [answer] at ready
        cases ready
  | ok =>
      obtain ⟨asked, inOrder, named, results, steps⟩ :=
        b.traced_runSuites codes timestamp suites v [.reset (.ok ())]
      refine ⟨.reset (.ok ()) :: asked.flatMap fun s => s.1.steps codes s.2, ?_, ⟨?_, ?_⟩⟩
      · rw [run, run, tracedReset, answer]
        dsimp only
        rw [steps]
        rfl
      · intro e failed
        rw [answer] at failed
        cases failed
      · intro _
        refine ⟨asked, asked.map fun s => s.1.answered codes timestamp s.2, inOrder, named, ?_, ?_, rfl⟩
        · rw [run, answer]
          dsimp only
          rw [results]
        · rw [List.forall₂_map_right_iff, List.forall₂_same]
          exact fun s _ => s.1.answered_judges s.2

section Samples

/-- A bench that counts calls, of which every second one raises a violation. -/
def countingBench : Bench Nat where
  reset _ := (.ok (), 0)
  enter _ n := n
  invoke _ n := ((if n % 2 = 0 then .returned else .violated ⟨4071, "pre_Pop"⟩, 7), n + 1)
  suiteStarted _ n := n
  testFinished _ _ n := n

def countedSuites : List Suite :=
  [⟨"TestStack", ["TestPush", "TestPop"]⟩, ⟨"TestQueue", ["TestPopExpectPreconditionFailure"]⟩]

def countedResults (timestamp : Timestamp) : List SuiteResult :=
  [⟨"TestStack", timestamp, [⟨"TestPush", 7, .pass, none⟩, ⟨"TestPop", 7, .error, some "pre_Pop"⟩]⟩,
    ⟨"TestQueue", timestamp, [⟨"TestPopExpectPreconditionFailure", 7, .fail,
      some "test passed, but expected precondition failure"⟩]⟩]

/-- The call of the first test of the second suite is the third one, whatever was done before the run. -/
theorem run_performs_counting :
    (countingBench.run {} default countedSuites 5) = (.ok (countedResults default), 3) ∧
    ∃ trace, countingBench.Performs {} default countedSuites 5 (.ok (countedResults default)) trace ∧
      trace = [.reset (.ok ()),
        .suiteStarted ⟨"TestStack", ["TestPush", "TestPop"]⟩, .enter "TestStack",
        .invoke "TestPush" (.returned, 7), .testFinished "TestStack" ⟨"TestPush", 7, .pass, none⟩,
        .invoke "TestPop" (.violated ⟨4071, "pre_Pop"⟩, 7),
        .testFinished "TestStack" ⟨"TestPop", 7, .error, some "pre_Pop"⟩,
        .suiteStarted ⟨"TestQueue", ["TestPopExpectPreconditionFailure"]⟩, .enter "TestQueue",
        .invoke "TestPopExpectPreconditionFailure" (.returned, 7),
        .testFinished "TestQueue" ⟨"TestPopExpectPreconditionFailure", 7, .fail,
          some "test passed, but expected precondition failure"⟩] := by
  have ran : countingBench.run {} default countedSuites 5 = (.ok (countedResults default), 3) := by
    decide +kernel
  obtain ⟨trace, traced, performs⟩ := countingBench.run_performs {} default countedSuites 5
  rw [ran] at traced performs
  refine ⟨ran, trace, performs, ?_⟩
  have told : (countingBench.traced.run {} default countedSuites (5, [])).2.2 = trace :=
    congrArg (·.2.2) traced
  rw [← told]
  decide +kernel

end Samples

end Bench

end SpecTest
