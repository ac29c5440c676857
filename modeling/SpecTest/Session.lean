import SpecTest.Coverage.Recorder
import SpecTest.Document.Load
import SpecTest.Runner
import SpecTest.Verbosity

/-!
Sessions: from a transcript and settings to reports.
-/

namespace SpecTest

open SpecTest.Coverage SpecTest.Report

variable {m : Type → Type} [Monad m] [Host m]

def SettingsLayer.load (file : Path) : Task m SettingsLayer := do
  let text ← Task.ofHost (Host.readText file)
  match SettingsLayer.ofText text with
  | .ok layer => return layer
  | .error reason => throw (.settings (.unreadable file reason))

def SettingsLayer.loadOption : Option Path → Task m SettingsLayer
  | some file => SettingsLayer.load file
  | none => return {}

def Settings.recorder? (s : Settings) : Option Recorder :=
  if s.recordCoverage then
    let recorder : Recorder := { outputDir := s.coverageDir }
    some <| match s.coverageSourceDir with
      | some dir => recorder.withSourceDir dir
      | none => recorder
  else none

def transcriptFormat (file : Path) : DocumentFormat :=
  match file.extension? with
  | some e => if e.toList.map Char.toLower = "json".toList then .json else .yaml
  | none => .yaml

namespace Script

def load (file : Path) : Task m Script := do
  let text ← Task.ofHost (Host.readText file)
  let format := transcriptFormat file
  match Transcript.ofText format text with
  | .error reason => throw (.transcript file (.unreadable format reason))
  | .ok t =>
    match t.validate with
    | .error reason => throw (.transcript file reason)
    | .ok () =>
      Task.log .debug ("loaded transcript " ++ file.text ++ " (" ++ toString t.modules.length ++
        " modules)")
      return ⟨t, file.parent?.getD ⟨""⟩⟩

def check (s : Script) : Task m Unit := do
  let (messages, failure) := s.transcript.problems
  Task.logAll (messages.map fun text => ⟨.error, text⟩)
  match failure with
  | some f => throw f
  | none => return ()

/-- The coverage that the script records: the text of a file that is not recorded is read. -/
def source (s : Script) : Source m where
  text file :=
    match s.text? file with
    | some text => return text
    | none => Task.ofHost (Host.readText file)
  hits file := return s.hits file

end Script

structure SessionOutcome where
  results : List SuiteResult
  summary : RunSummary
  coverage : Option CoverageSummary
  reportFiles : List Path
  launchFiles : List Path
deriving DecidableEq, Repr

/-- Runs the tests of a transcript and writes the reports. -/
def runSession (output : OutputSettings) (settings : Settings) (hostname : String)
    (transcript : Path) : Task m SessionOutcome := do
  let script ← Script.load transcript
  script.check
  let selector ← Task.ofExcept settings.selector
  let suites := selector.discover script.modules
  Task.log .debug ("discovered " ++ toString suites.length ++ " test modules")
  if suites.isEmpty then
    Task.log .warn ("no test modules found in " ++ transcript.text)
  let took ← (Host.callMillis : m (Nat → UInt64))
  let (run, after) := (script.interpreter took).run settings.violationCodes
    (← (Host.now : m Timestamp)) suites {}
  Task.logAll (after.events.reverse.flatMap (·.logEvents))
  let results ← Task.ofExcept run
  let reportFiles ← writeJunit settings.reportDir results hostname
  let summary := RunSummary.ofResults results
  Task.log .info summary.text
  let coverage ←
    match settings.recorder? with
    | some recorder => recorder.record script.source script.modules
    | none => pure none
  let launchFiles ← writeLaunch settings.launchDir settings.launchGeneration settings.launchProject
    results
  if output.verbosity.isVerbose then
    (reportFiles ++ launchFiles).forM fun file => (Host.notice ("wrote " ++ file.text) : m Unit)
  return ⟨results, summary, coverage, reportFiles, launchFiles⟩

def SessionOutcome.demandSuccess (o : SessionOutcome) : Except Failure SessionOutcome :=
  if o.summary.succeeded then .ok o
  else .error (.testsFailed o.summary.failures o.summary.errors)

end SpecTest
