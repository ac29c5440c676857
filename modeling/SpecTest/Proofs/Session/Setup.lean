import SpecTest.CommandLine.Program
import SpecTest.Proofs.Report.Requests
import SpecTest.Proofs.Session.Phases
import SpecTest.Proofs.Session.Stages

/-!
What can go wrong before a session writes anything.

A command first settles the settings and runs the tests, and only then makes its report directories.  What
is wrong with the settings, the transcript or the specification is found in the first part, so that the
second part fails with none of it.
-/

namespace SpecTest

open SpecTest.CommandLine SpecTest.Coverage SpecTest.Data SpecTest.Disk SpecTest.Report SpecTest.Task

variable {w w' : World} {a : TestArgs} {output : OutputSettings} {settings : Settings}

section Keeping

theorem SettingsLayer.load_keepsDisk (file : Path) : KeepsDisk (SettingsLayer.load file) := by
  refine (KeepsDisk.readText file).bind fun text => ?_
  split
  · exact .pure _
  · exact .throw _

theorem SettingsLayer.loadOption_keepsDisk (file : Option Path) :
    KeepsDisk (SettingsLayer.loadOption file) := by
  cases file with
  | none => exact .pure _
  | some file => exact load_keepsDisk file

theorem CommandLine.TestArgs.settings_keepsDisk (a : TestArgs) : KeepsDisk a.settings :=
  (SettingsLayer.loadOption_keepsDisk _).bind fun _ =>
    KeepsDisk.bind (fun _ => rfl) fun _ =>
      (KeepsDisk.ofExcept _).bind fun _ => (KeepsDisk.logAll _).bind fun _ => .pure _

end Keeping

section Checking

theorem Settings.validate_eq_ok {warnings : List LogEvent} (valid : settings.validate = .ok warnings) :
    (∃ selector, settings.selector = .ok selector) ∧ settings.checkLaunch = .ok () := by
  obtain ⟨selector, selected, rest⟩ := bind_eq_ok_iff.mp valid
  obtain ⟨⟨⟩, checked, -⟩ := bind_eq_ok_iff.mp rest
  exact ⟨⟨selector, selected⟩, checked⟩

theorem CommandLine.TestArgs.settings_checked (done : a.settings.on w = (.ok settings, w')) :
    settings.checkLaunch = .ok () := by
  obtain ⟨file, v₁, -, rest⟩ := bind_on_eq_ok_iff.mp done
  obtain ⟨workDir, v₂, -, rest⟩ := bind_on_eq_ok_iff.mp rest
  obtain ⟨warnings, v₃, valid, rest⟩ := bind_on_eq_ok_iff.mp rest
  obtain ⟨⟨⟩, v₄, -, done⟩ := bind_on_eq_ok_iff.mp rest
  obtain ⟨validated, -⟩ := Prod.mk.inj valid
  cases done
  exact (Settings.validate_eq_ok validated).2

end Checking

section Reporting

variable {kind : Failure → Prop} (io : ∀ reason, kind (.io reason)) {hostname : String} {script : Script}
  {results : List SuiteResult} {e : Failure}

theorem noticeFiles_failsOnly (output : OutputSettings) (files : List Path) :
    FailsOnly kind (noticeFiles output files) := by
  rw [noticeFiles]
  split
  · exact .forM fun _ => .liftM _
  · exact .pure _

include io

theorem Script.source_text_failsOnly (script : Script) (file : Path) :
    (script.source.text file).FailsOnly kind := by
  dsimp only [Script.source]
  split
  · exact .pure _
  · exact .ofHost io

theorem recordCoverage_on_eq_error (failed : (recordCoverage settings script).on w = (.error e, w')) :
    kind e ∨ e.IsUnfit ∧ settings.recordCoverage = true ∧ Remade w.disk w'.disk settings.coverageDir := by
  rw [recordCoverage] at failed
  cases asked : settings.recorder? with
  | none =>
      rw [asked] at failed
      cases failed
  | some r =>
      rw [asked] at failed
      obtain ⟨on, place⟩ := Settings.recorder?_eq_some asked
      rcases Recorder.record_on_eq_error io (script.source_text_failsOnly io) (fun _ => .pure _) failed with
        known | ⟨unfit, files, v, collected, remade⟩
      · exact .inl known
      · rw [(collect_keepsDisk script.source_keepsDisk).disk_eq collected, place] at remade
        exact .inr ⟨unfit, on, remade⟩

/-- A report that fails with times has written the documents of the suites before, and one that fails with a
location has written all documents.  Neither has written a descriptor. -/
theorem reportResults_on_eq_error (checked : settings.checkLaunch = .ok ())
    (failed : (reportResults output settings hostname script results).on w = (.error e, w')) :
    kind e ∨
    (e = .timeOverflow ∧ ∃ front documents, front <+: results ∧ junitFiles hostname front = .ok documents ∧
      Refilled w.disk w'.disk settings.reportDir documents) ∨
    e.IsUnfit ∧ settings.recordCoverage = true ∧
      ∃ documents reported, junitFiles hostname results = .ok documents ∧
        Refilled w.disk reported settings.reportDir documents ∧ Remade reported w'.disk settings.coverageDir := by
  rcases bind_on_eq_error_iff.mp failed with unwritten | ⟨reportFiles, v₁, reported, failed⟩
  · exact (writeJunit_on_eq_error io unwritten).imp_right fun ⟨⟨_, _, hasNone⟩, stopped⟩ =>
      .inl ⟨junit_eq_error hasNone, stopped⟩
  rcases bind_on_eq_error_iff.mp failed with unsummed | ⟨⟨⟩, v₂, summed, failed⟩
  · cases unsummed
  rcases bind_on_eq_error_iff.mp failed with unrecorded | ⟨coverage, v₃, -, failed⟩
  · refine (recordCoverage_on_eq_error io unrecorded).imp_right fun ⟨unfit, on, remade⟩ => .inr ?_
    obtain ⟨documents, made, -, refilled⟩ := writeJunit_on_eq_ok reported
    rw [(KeepsDisk.log _ _).disk_eq summed] at remade
    exact ⟨unfit, on, documents, v₁.disk, made, refilled, remade⟩
  · left
    exact ((writeLaunch_failsOnly io checked results).bind fun _ =>
      (noticeFiles_failsOnly _ _).bind fun _ => .pure _) _ _ _ failed

end Reporting

theorem reportResults_failsOnly (checked : settings.checkLaunch = .ok ()) (output : OutputSettings)
    (hostname : String) (script : Script) (results : List SuiteResult) :
    FailsOnly Failure.IsFatal (reportResults output settings hostname script results) := by
  intro w e w' failed
  have io : ∀ reason, Failure.IsFatal (.io reason) := fun _ => .inl rfl
  rcases reportResults_on_eq_error io checked failed with known | ⟨rfl, -⟩ | ⟨unfit, -⟩
  · exact known
  · exact .inr rfl
  · exact unfit.isFatal

/-- What a command does before it makes its first report directory anew. -/
def CommandLine.TestArgs.setup {m : Type → Type} [Monad m] [Host m] (a : TestArgs) :
    Task m (Settings × Script × List SuiteResult) := do
  let settings ← a.settings
  let (script, results) ← runTranscript settings a.transcript
  return (settings, script, results)

theorem CommandLine.TestArgs.execute_eq {m : Type → Type} [Monad m] [LawfulMonad m] [Host m]
    (a : TestArgs) (output : OutputSettings) :
    (a.execute output : Task m SessionOutcome) = (do
      let hostname ← (Host.hostname : m String)
      let (settings, script, results) ← a.setup
      let outcome ← reportResults output settings hostname script results
      Task.ofExcept outcome.demandSuccess) := by
  simp only [execute, run, setup, runSession_eq, bind_assoc, pure_bind]

theorem CommandLine.TestArgs.setup_keepsDisk (a : TestArgs) : KeepsDisk a.setup :=
  a.settings_keepsDisk.bind fun _ => (runTranscript_keepsDisk _ _).bind fun _ => .pure _

theorem CommandLine.TestArgs.setup_checked {script : Script} {results : List SuiteResult}
    (done : a.setup.on w = (.ok (settings, script, results), w')) :
    settings.checkLaunch = .ok () := by
  obtain ⟨chosen, v, settled, rest⟩ := bind_on_eq_ok_iff.mp done
  obtain ⟨ran, v', -, finished⟩ := bind_on_eq_ok_iff.mp rest
  cases finished
  exact settings_checked settled

theorem SessionOutcome.demandSuccess_eq_error {outcome : SessionOutcome} {e : Failure}
    (failed : outcome.demandSuccess = .error e) : e.exitStatus = 1 := by
  rw [demandSuccess] at failed
  split at failed
  · cases failed
  · cases failed
    rfl

/-- A command that fails because of its settings, its transcript or the specification fails before it
reports, and leaves all files as they were. -/
theorem execute_setupFailure {e : Failure} (failed : (a.execute output).on w = (.error e, w'))
    (ofSetup : e.exitStatus ∈ [2, 3, 4, 5]) : a.setup.on w = (.error e, w') ∧ w'.disk = w.disk := by
  rw [a.execute_eq] at failed
  rcases bind_on_eq_error_iff.mp failed with named | ⟨hostname, v, named, failed⟩
  · cases named
  · cases named
    rcases bind_on_eq_error_iff.mp failed with early | ⟨⟨settings, script, results⟩, v, ready, failed⟩
    · exact ⟨early, a.setup_keepsDisk.disk_eq early⟩
    · exfalso
      rcases bind_on_eq_error_iff.mp failed with late | ⟨outcome, v', -, ended⟩
      · have fatal : e.exitStatus = 6 ∨ e.exitStatus = 101 :=
          reportResults_failsOnly (TestArgs.setup_checked ready) _ _ _ _ _ _ _ late
        rcases fatal with fatal | fatal
        · rw [fatal] at ofSetup
          exact absurd ofSetup (by decide)
        · rw [fatal] at ofSetup
          exact absurd ofSetup (by decide)
      · obtain ⟨unsuccessful, -⟩ := Prod.mk.inj ended
        rw [SessionOutcome.demandSuccess_eq_error unsuccessful] at ofSetup
        exact absurd ofSetup (by decide)

section Samples

/-- A transcript of a dialect that has no tests, beside the reports of an earlier session. -/
def dialectWorld : World where
  disk.workDir := ["work"]
  disk.entries := [(["work"], .directory),
    (["work", "t.json"], .file "\x7b\"dialect\": \"vdmpp\"\x7d"),
    (["work", "out"], .directory), (["work", "out", "TEST-TestStack.xml"], .file "<testsuite/>")]

def dialectArgs : TestArgs := { transcript := ⟨"t.json"⟩, reportDir := some ⟨"out"⟩ }

theorem execute_setupFailure_dialect :
    ∃ w', (dialectArgs.execute {}).on dialectWorld = (.error (.unsupportedDialect .vdmpp), w') ∧
      (Failure.unsupportedDialect .vdmpp).exitStatus ∈ [2, 3, 4, 5] ∧
      dialectArgs.setup.on dialectWorld = (.error (.unsupportedDialect .vdmpp), w') ∧
      w'.disk = dialectWorld.disk := by
  have gives : ((dialectArgs.execute {}).on dialectWorld).1 = .error (.unsupportedDialect .vdmpp) := by
    decide +kernel
  have ofSetup : (Failure.unsupportedDialect .vdmpp).exitStatus ∈ [2, 3, 4, 5] := by decide
  exact ⟨_, on_of_fst_error gives, ofSetup, execute_setupFailure (on_of_fst_error gives) ofSetup⟩

end Samples

end SpecTest
