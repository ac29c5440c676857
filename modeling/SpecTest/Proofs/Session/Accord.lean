import Mathlib.Tactic.TFAE
import SpecTest.CommandLine.Program
import SpecTest.Proofs.Report.Documents
import SpecTest.Proofs.Session.Counts
import SpecTest.Proofs.Session.Phases

/-!
What a session tells about its tests: its outcome, its summary, its documents and its launch descriptors
tell the same.
-/

namespace SpecTest

open SpecTest.CommandLine SpecTest.Data SpecTest.Markup SpecTest.Report SpecTest.Task

variable {w w' v : World} {output : OutputSettings} {settings : Settings} {hostname : String}
  {transcript : Path} {outcome : SessionOutcome} {results : List SuiteResult} {documents : List String}

/-- The ways in which a session and its documents show that no test failed or had an error. -/
def SessionOutcome.successSigns (outcome : SessionOutcome) (documents : List String) : List Prop :=
  [outcome.demandSuccess = .ok outcome,
    outcome.summary.succeeded = true,
    ∀ suite ∈ outcome.results, suite.succeeded = true,
    ∀ suite ∈ outcome.results, ∀ r ∈ suite.results, r.verdict = .pass,
    ∀ document ∈ documents,
      suiteAttribute? "failures" document = some "0" ∧ suiteAttribute? "errors" document = some "0",
    ∀ document ∈ documents,
      elementCount "failure" document = 0 ∧ elementCount "error" document = 0]

/-- Does all that a session gives tell of the same passes, failures and errors as its documents? -/
structure SessionOutcome.Accords (outcome : SessionOutcome) (settings : Settings) (documents : List String) :
    Prop where
  success : (outcome.successSigns documents).TFAE
  otherwise : outcome.demandSuccess ≠ .ok outcome → ∃ e, outcome.demandSuccess = .error e ∧
    e = .testsFailed outcome.summary.failures outcome.summary.errors ∧ e.exitStatus = 1
  failures : attributeSum? "failures" documents = some outcome.summary.failures ∧
    elementSum "failure" documents = outcome.summary.failures
  errors : attributeSum? "errors" documents = some outcome.summary.errors ∧
    elementSum "error" documents = outcome.summary.errors
  tests : attributeSum? "tests" documents = some outcome.summary.tests ∧
    elementSum "testcase" documents = outcome.summary.tests
  suites : ∀ suite ∈ outcome.results,
    suite.testCount = suite.count .pass + suite.count .fail + suite.count .error
  launch : settings.launchGeneration = .failing →
    outcome.launchFiles.length = outcome.summary.failures + outcome.summary.errors

theorem runSession_reports
    (ran : (runSession output settings hostname transcript).on w = (.ok outcome, w')) :
    outcome.summary = RunSummary.ofResults outcome.results ∧
      outcome.launchFiles.length = (settings.launchGeneration.selected outcome.results).length := by
  rw [runSession_eq] at ran
  obtain ⟨⟨script, results⟩, v, -, reported⟩ := bind_on_eq_ok_iff.mp ran
  obtain ⟨rfl, summary, launched, -⟩ := reportResults_on_eq_ok reported
  exact ⟨summary, launched⟩

theorem SessionOutcome.demandSuccess_eq_ok_iff (outcome : SessionOutcome) :
    outcome.demandSuccess = .ok outcome ↔ outcome.summary.succeeded = true := by
  rw [demandSuccess]
  split <;> simp_all

theorem SessionOutcome.demandSuccess_of_ne_ok (unsuccessful : outcome.demandSuccess ≠ .ok outcome) :
    outcome.demandSuccess = .error (.testsFailed outcome.summary.failures outcome.summary.errors) := by
  rw [demandSuccess] at unsuccessful ⊢
  split at unsuccessful
  · contradiction
  · rename_i failed
    rw [if_neg failed]

theorem SessionOutcome.successSigns_tfae
    (made : documents.map Except.ok = outcome.results.map (junit · hostname))
    (summary : outcome.summary = RunSummary.ofResults outcome.results) :
    (outcome.successSigns documents).TFAE := by
  -- The signs in the results and in the documents are questions to each suite by itself.
  have attributes : (∀ suite ∈ outcome.results, suite.succeeded = true) ↔ ∀ document ∈ documents,
      suiteAttribute? "failures" document = some "0" ∧ suiteAttribute? "errors" document = some "0" := by
    refine forall_documents_iff made fun suite document has => ?_
    have failures : suiteAttribute? "failures" document = some (toString (suite.count .fail)) :=
      suiteAttribute?_junit has fun _ => rfl
    have errors : suiteAttribute? "errors" document = some (toString (suite.count .error)) :=
      suiteAttribute?_junit has fun _ => rfl
    rw [attribute_eq_zero_iff failures, attribute_eq_zero_iff errors, suite.succeeded_iff_count]
  have elements : (∀ suite ∈ outcome.results, suite.succeeded = true) ↔ ∀ document ∈ documents,
      elementCount "failure" document = 0 ∧ elementCount "error" document = 0 := by
    refine forall_documents_iff made fun suite document has => ?_
    have failures : elementCount "failure" document = suite.count .fail := elementCount_problem rfl has
    have errors : elementCount "error" document = suite.count .error := elementCount_problem rfl has
    rw [failures, errors, suite.succeeded_iff_count]
  rw [successSigns]
  tfae_have 1 ↔ 2 := outcome.demandSuccess_eq_ok_iff
  tfae_have 2 ↔ 3 := by rw [summary, RunSummary.ofResults_succeeded_iff]
  tfae_have 3 ↔ 4 := by simp only [SuiteResult.succeeded_iff_pass]
  tfae_have 3 ↔ 5 := attributes
  tfae_have 3 ↔ 6 := elements
  tfae_finish

theorem CommandLine.TestArgs.execute_on {a : TestArgs} (settled : a.settings.on v = (.ok settings, w))
    (ran : (runSession output settings v.hostname a.transcript).on w = (.ok outcome, w')) :
    (a.execute output).on v = (outcome.demandSuccess, w') := by
  have named : (liftM (Host.hostname : StateM World String) : Task (StateM World) String).on v =
      (.ok v.hostname, v) := rfl
  rw [execute, on_bind, named]
  dsimp only
  rw [on_bind, run, on_bind, settled]
  dsimp only
  rw [ran]
  rfl

/-- Whatever a session that ends well gives tells of the same failures and errors as the documents that it
writes, and a command that runs it ends well exactly if there are none. -/
theorem runSession_accords
    (ran : (runSession output settings hostname transcript).on w = (.ok outcome, w')) :
    ∃ documents, WroteReports settings hostname outcome documents w.disk w'.disk ∧
      outcome.Accords settings (documents.map (·.2)) ∧
      ∀ (a : TestArgs) (v : World), a.transcript = transcript → v.hostname = hostname →
        a.settings.on v = (.ok settings, w) → (a.execute output).on v = (outcome.demandSuccess, w') := by
  obtain ⟨summary, launched⟩ := runSession_reports ran
  obtain ⟨-, documents, wrote⟩ := runSession_on_eq_ok ran
  have made := parts_of_named (junitFiles_eq_ok_iff.mp wrote.made)
  have totals := RunSummary.ofResults_eq outcome.results
  rw [← summary] at totals
  refine ⟨documents, wrote, ?_, ?_⟩
  · constructor
    case success => exact SessionOutcome.successSigns_tfae made summary
    case otherwise =>
      exact fun unsuccessful => ⟨_, SessionOutcome.demandSuccess_of_ne_ok unsuccessful, rfl, rfl⟩
    case failures =>
      rw [totals]
      exact ⟨attributeSum?_eq_some made fun _ _ has => suiteAttribute?_junit has fun _ => rfl,
        elementSum_eq made fun _ _ has => elementCount_problem rfl has⟩
    case errors =>
      rw [totals]
      exact ⟨attributeSum?_eq_some made fun _ _ has => suiteAttribute?_junit has fun _ => rfl,
        elementSum_eq made fun _ _ has => elementCount_problem rfl has⟩
    case tests =>
      rw [totals]
      exact ⟨attributeSum?_eq_some made fun _ _ has => suiteAttribute?_junit has fun _ => rfl,
        elementSum_eq made fun _ _ has => elementCount_testcase has⟩
    case suites => exact fun suite _ => suite.testCount_eq_count
    case launch =>
      intro failing
      rw [launched, failing, LaunchGeneration.length_selected_failing, summary]
  · intro a v same named settled
    subst same named
    exact TestArgs.execute_on settled ran

section Samples

/-- A transcript with a test that fails with a message that looks like the element of an error. -/
def failingWorld : World where
  callMillis _ := 30
  disk.entries := [(["t.json"],
    .file ("\x7b\"modules\": [\x7b\"name\": \"TestStack\", \"operations\": [\x7b\"name\": \"TestPop\", " ++
      "\"outcome\": \x7b\"violation\": \x7b\"code\": 4072, \"message\": \"<error/>\"\x7d\x7d\x7d]\x7d]\x7d"))]

def failingArgs : TestArgs where
  transcript := ⟨"t.json"⟩
  reportDir := some ⟨"junit"⟩
  launchDir := some ⟨"launch"⟩
  launchProject := some "stack"

def failingSettings : Settings where
  reportDir := ⟨"junit"⟩
  launchDir := some ⟨"launch"⟩
  launchProject := some "stack"

def failingOutcome : SessionOutcome where
  results := [⟨"TestStack", failingWorld.now, [⟨"TestPop", 30, .fail, some "<error/>"⟩]⟩]
  summary := ⟨1, 1, 0⟩
  coverage := none
  reportFiles := [⟨"junit/TEST-TestStack.xml"⟩]
  launchFiles := [⟨"launch/TestStack\x60TestPop.launch"⟩]

theorem runSession_accords_failing :
    ∃ w w', failingArgs.settings.on failingWorld = (.ok failingSettings, w) ∧
      (runSession {} failingSettings "localhost" ⟨"t.json"⟩).on w = (.ok failingOutcome, w') ∧
      (∃ documents, WroteReports failingSettings "localhost" failingOutcome documents w.disk w'.disk ∧
        failingOutcome.Accords failingSettings (documents.map (·.2))) ∧
      (failingArgs.execute {}).on failingWorld = (.error (.testsFailed 1 0), w') := by
  have settled : (failingArgs.settings.on failingWorld).1 = .ok failingSettings := by decide +kernel
  have gives : ((runSession {} failingSettings "localhost" ⟨"t.json"⟩).on
      (failingArgs.settings.on failingWorld).2).1 = .ok failingOutcome := by decide +kernel
  obtain ⟨documents, wrote, accords, executes⟩ := runSession_accords (on_of_fst gives)
  have ended := executes failingArgs failingWorld rfl rfl (on_of_fst settled)
  have failed : failingOutcome.demandSuccess = .error (.testsFailed 1 0) := rfl
  rw [failed] at ended
  exact ⟨_, _, on_of_fst settled, on_of_fst gives, ⟨documents, wrote, accords⟩, ended⟩

end Samples

end SpecTest
