import SpecTest.Session

/-!
A session in two stages: the tests of a transcript are run first, which writes nothing, and their results
are reported then.
-/

namespace SpecTest

open SpecTest.Coverage SpecTest.Report

variable {m : Type → Type} [Monad m] [Host m]

def announceSuites (transcript : Path) (suites : List Suite) : Task m Unit := do
  Task.log .debug ("discovered " ++ toString suites.length ++ " test modules")
  if suites.isEmpty then
    Task.log .warn ("no test modules found in " ++ transcript.text)

def runTranscript (settings : Settings) (transcript : Path) : Task m (Script × List SuiteResult) := do
  let script ← Script.load transcript
  script.check
  let selector ← Task.ofExcept settings.selector
  let suites := selector.discover script.modules
  announceSuites transcript suites
  let took ← (Host.callMillis : m (Nat → UInt64))
  let now ← (Host.now : m Timestamp)
  let (run, after) := (script.interpreter took).run settings.violationCodes now suites {}
  Task.logAll (after.events.reverse.flatMap (·.logEvents))
  let results ← Task.ofExcept run
  return (script, results)

def recordCoverage (settings : Settings) (script : Script) : Task m (Option CoverageSummary) :=
  match settings.recorder? with
  | some recorder => recorder.record script.source script.modules
  | none => pure none

def noticeFiles (output : OutputSettings) (files : List Path) : Task m Unit := do
  if output.verbosity.isVerbose then
    files.forM fun file => (Host.notice ("wrote " ++ file.text) : m Unit)

/-- The part of a session that writes: it starts with making the directory of the documents anew. -/
def reportResults (output : OutputSettings) (settings : Settings) (hostname : String) (script : Script)
    (results : List SuiteResult) : Task m SessionOutcome := do
  let reportFiles ← writeJunit settings.reportDir results hostname
  let summary := RunSummary.ofResults results
  Task.log .info summary.text
  let coverage ← recordCoverage settings script
  let launchFiles ← writeLaunch settings.launchDir settings.launchGeneration settings.launchProject
    results
  noticeFiles output (reportFiles ++ launchFiles)
  return ⟨results, summary, coverage, reportFiles, launchFiles⟩

theorem finish_eq [LawfulMonad m] {α : Type} (output : OutputSettings) (files : List Path) (a : α) :
    (do
      if output.verbosity.isVerbose then
        files.forM fun file => (Host.notice ("wrote " ++ file.text) : m Unit)
      return a : Task m α) = (do
      noticeFiles output files
      return a) := by
  rw [noticeFiles]
  split
  · rfl
  · rw [pure_bind]

theorem runSession_eq [LawfulMonad m] (output : OutputSettings) (settings : Settings)
    (hostname : String) (transcript : Path) :
    (runSession output settings hostname transcript : Task m SessionOutcome) = (do
      let (script, results) ← runTranscript settings transcript
      reportResults output settings hostname script results) := by
  rw [runSession, runTranscript]
  simp only [reportResults, announceSuites, recordCoverage, bind_assoc, pure_bind, finish_eq]
  refine bind_congr fun script => bind_congr fun _ => bind_congr fun selector => bind_congr fun _ => ?_
  cases settings.recorder? with
  | none =>
      split
      · simp only [pure_bind]
      · simp only [pure_bind]
  | some recorder =>
      split
      · rfl
      · rw [pure_bind]

end SpecTest
