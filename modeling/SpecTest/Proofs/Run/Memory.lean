import SpecTest.Proofs.Session.Entries

/-!
Runs of a script have no memory.

A run starts by forgetting the earlier calls, and enters the module of each suite before it calls a test.  So
the judgement on a test depends on its module and its name alone, and not on the state of the interpreter
or on the tests around it.
-/

namespace SpecTest

/-- The calls of a suite: each of its tests in its module. -/
def Suite.calls (s : Suite) : List (String × String) := s.tests.map fun test => (s.moduleName, test)

/-- A test in its module, with the verdict on it and the message. -/
abbrev Judgement := (String × String) × Verdict × Option String

def SuiteResult.judgements (s : SuiteResult) : List Judgement :=
  s.results.map fun r => ((s.moduleName, r.testName), r.verdict, r.message)

namespace Script

variable {script : Script} {took : Nat → UInt64} {codes : ViolationCodes} {timestamp : Timestamp}

/-- The judgement on a call, which depends on nothing but the script. -/
def judge (s : Script) (codes : ViolationCodes) (call : String × String) : Judgement :=
  (call, (Expectation.ofName call.2).judge (s.call call.1 call.2) codes)

theorem Tests.judgements_eq {suite : Suite} {r : SuiteResult} (tested : script.Tests codes timestamp suite r) :
    r.judgements = suite.calls.map (script.judge codes) := by
  obtain ⟨named, -, answered⟩ := tested
  rw [SuiteResult.judgements, Suite.calls, named, List.map_map]
  generalize suite.tests = tests, r.results = results at answered
  induction answered with
  | nil => rfl
  | cons answered _ ih =>
      rw [List.map_cons, List.map_cons, ih, answered.name, answered.judged]
      rfl

theorem judgements_eq {suites : List Suite} {results : List SuiteResult}
    (tested : List.Forall₂ (script.Tests codes timestamp) suites results) :
    results.flatMap SuiteResult.judgements = (suites.flatMap Suite.calls).map (script.judge codes) := by
  induction tested with
  | nil => rfl
  | cons first _ ih => rw [List.flatMap_cons, ih, first.judgements_eq, List.flatMap_cons, List.map_append]

section Calls

theorem runTests_calls {moduleName : String} (tests : List String) (run : Run ScriptState)
    (entered : run.state.context = some moduleName) :
    ((script.interpreter took).runTests codes moduleName tests run).2.state.calls =
      (tests.map fun test => (moduleName, test)).reverse ++ run.state.calls := by
  induction tests generalizing run with
  | nil => rfl
  | cons test rest ih =>
      have named : run.state.moduleName = moduleName := by rw [ScriptState.moduleName, entered]; rfl
      have called : ((script.interpreter took).runTest codes moduleName test run).2.state.calls =
          (moduleName, test) :: run.state.calls := by rw [← named]; rfl
      have later := ih ((script.interpreter took).runTest codes moduleName test run).2 entered
      rw [called] at later
      rw [List.map_cons, List.reverse_cons, List.append_assoc, List.singleton_append, ← later]
      rfl

theorem runSuites_calls (suites : List Suite) (run : Run ScriptState) :
    ((script.interpreter took).runSuites codes timestamp suites run).2.state.calls =
      (suites.flatMap Suite.calls).reverse ++ run.state.calls := by
  induction suites generalizing run with
  | nil => rfl
  | cons suite rest ih =>
      have first : ((script.interpreter took).runSuite codes timestamp suite run).2.state.calls =
          suite.calls.reverse ++ run.state.calls :=
        runTests_calls suite.tests _ rfl
      have later := ih ((script.interpreter took).runSuite codes timestamp suite run).2
      rw [first, ← List.append_assoc, ← List.reverse_append, ← List.flatMap_cons] at later
      exact later

theorem run_invocations (suites : List Suite) (state : ScriptState) :
    ((script.interpreter took).run codes timestamp suites state).2.state.invocations =
      (suites.flatMap Suite.calls).map fun call => qualified call.1 call.2 := by
  have calls : ((script.interpreter took).run codes timestamp suites state).2.state.calls =
      (suites.flatMap Suite.calls).reverse ++ [] := runSuites_calls suites _
  rw [ScriptState.invocations, calls, List.append_nil, List.reverse_reverse]
  rfl

end Calls

/-- Are these the judgements on the tests of the suites in order, and are their calls all that the interpreter
knows of?  It goes on to answer as the script says. -/
structure Judged (script : Script) (suites : List Suite) (results : List SuiteResult)
    (after : ScriptState) : Prop where
  inOrder : (results.flatMap (·.judgements)).map (·.1) = suites.flatMap Suite.calls
  invocations : after.invocations =
    (suites.flatMap Suite.calls).map fun call => qualified call.1 call.2
  answers : ∀ took moduleName operation, ((script.interpreter took).invoke operation
    ((script.interpreter took).enter moduleName after)).1.1 = script.call moduleName operation

theorem judged_run {suites : List Suite} {results : List SuiteResult}
    (tested : List.Forall₂ (script.Tests codes timestamp) suites results) (state : ScriptState) :
    script.Judged suites results ((script.interpreter took).run codes timestamp suites state).2.state where
  inOrder := by
    rw [judgements_eq tested, List.map_map]
    exact List.map_id _
  invocations := run_invocations suites state
  answers _ _ _ := rfl

/-- Two runs of the same tests give each test one judgement, whatever states earlier calls have left the
interpreters in, however long the calls take, and however the tests are ordered and put into suites.  After
each run its interpreter knows of the calls of that run only. -/
theorem run_forgets {suites others : List Suite}
    (sameTests : (suites.flatMap Suite.calls).Perm (others.flatMap Suite.calls)) (script : Script)
    (took takes : Nat → UInt64) (codes : ViolationCodes) (timestamp later : Timestamp)
    (state other : ScriptState) :
    ∃ results otherResults,
      ((script.interpreter took).run codes timestamp suites state).1 = .ok results ∧
      ((script.interpreter takes).run codes later others other).1 = .ok otherResults ∧
      (results.flatMap (·.judgements)).Perm (otherResults.flatMap (·.judgements)) ∧
      (∀ j ∈ results.flatMap (·.judgements), ∀ k ∈ otherResults.flatMap (·.judgements),
        j.1 = k.1 → j.2 = k.2) ∧
      script.Judged suites results ((script.interpreter took).run codes timestamp suites state).2.state ∧
      script.Judged others otherResults ((script.interpreter takes).run codes later others other).2.state := by
  obtain ⟨results, gives, tested⟩ := script.run_tests took codes timestamp suites state
  obtain ⟨otherResults, givesToo, testedToo⟩ := script.run_tests takes codes later others other
  refine ⟨results, otherResults, gives, givesToo, ?_, ?_, judged_run tested state, judged_run testedToo other⟩
  · rw [judgements_eq tested, judgements_eq testedToo]
    exact sameTests.map _
  · rw [judgements_eq tested, judgements_eq testedToo]
    intro j first k second same
    obtain ⟨call, -, rfl⟩ := List.mem_map.mp first
    obtain ⟨otherCall, -, rfl⟩ := List.mem_map.mp second
    have sameCall : call = otherCall := same
    rw [sameCall]

section Samples

def replayedScript : Script where
  transcript.modules := [⟨"TestQueue", [], [⟨"TestPop", 0, .violated ⟨4072, "post_Pop"⟩⟩]⟩,
    ⟨"TestStack", [], [⟨"TestPop", 0, .violated ⟨4071, "pre_Pop"⟩⟩, ⟨"TestPush", 0, .returned⟩]⟩]
  baseDir := ⟨""⟩

def suitesInOrder : List Suite := [⟨"TestQueue", ["TestPop"]⟩, ⟨"TestStack", ["TestPop", "TestPush"]⟩]

def suitesApart : List Suite :=
  [⟨"TestStack", ["TestPush"]⟩, ⟨"TestQueue", ["TestPop"]⟩, ⟨"TestStack", ["TestPop"]⟩]

def usedState : ScriptState := ⟨some "TestQueue", [("TestQueue", "TestPop")]⟩

theorem run_forgets_suitesApart :
    (suitesInOrder.flatMap Suite.calls).Perm (suitesApart.flatMap Suite.calls) ∧
    ∃ results otherResults,
      ((replayedScript.interpreter fun _ => 0).run {} ⟨2024, 3, 1, 9, 5, 7, 0⟩ suitesInOrder usedState).1 =
        .ok results ∧
      ((replayedScript.interpreter UInt64.ofNat).run {} ⟨2024, 3, 2, 9, 5, 7, 0⟩ suitesApart {}).1 =
        .ok otherResults ∧
      (results.flatMap (·.judgements)).Perm (otherResults.flatMap (·.judgements)) ∧
      (∀ j ∈ results.flatMap (·.judgements), ∀ k ∈ otherResults.flatMap (·.judgements),
        j.1 = k.1 → j.2 = k.2) ∧
      replayedScript.Judged suitesInOrder results ((replayedScript.interpreter fun _ => 0).run {}
        ⟨2024, 3, 1, 9, 5, 7, 0⟩ suitesInOrder usedState).2.state ∧
      replayedScript.Judged suitesApart otherResults ((replayedScript.interpreter UInt64.ofNat).run {}
        ⟨2024, 3, 2, 9, 5, 7, 0⟩ suitesApart {}).2.state := by
  have sameTests : (suitesInOrder.flatMap Suite.calls).Perm (suitesApart.flatMap Suite.calls) := by
    decide
  exact ⟨sameTests, run_forgets sameTests _ _ _ _ _ _ _ _⟩

end Samples

end Script

end SpecTest
