import SpecTest.Proofs.Host.Logging
import SpecTest.Proofs.Host.Reading
import SpecTest.Proofs.Report.Documents
import SpecTest.Proofs.Report.Failures
import SpecTest.Proofs.Run.Logging
import SpecTest.Proofs.Session.Stages

/-!
What a session logs from the start of its run to its summary.

Each test has one line with its verdict, in the order of the tests, whatever the interpreter answers.  The
summary has one line, after all of them, and its numbers can be counted from them.
-/

namespace SpecTest

open SpecTest.Report SpecTest.Task

section Parts

variable {m : Type → Type} [Monad m] [Host m]

/-- The part of a session before its run: it finds the suites. -/
def findSuites (settings : Settings) (transcript : Path) : Task m (Script × List Suite) := do
  let script ← Script.load transcript
  script.check
  let selector ← Task.ofExcept settings.selector
  let suites := selector.discover script.modules
  announceSuites transcript suites
  return (script, suites)

def reportSummary (settings : Settings) (hostname : String) (results : List SuiteResult) :
    Task m (List Path) := do
  let reportFiles ← writeJunit settings.reportDir results hostname
  Task.log .info (RunSummary.ofResults results).text
  return reportFiles

/-- The part of a session from the start of its run to its summary, with any interpreter. -/
def Interpreter.runAndSum {σ : Type} (i : Interpreter σ) (state : σ) (settings : Settings)
    (hostname : String) (suites : List Suite) : Task m (List SuiteResult × List Path) := do
  let now ← (Host.now : m Timestamp)
  let (run, after) := i.run settings.violationCodes now suites state
  Task.logAll after.logEvents
  let results ← Task.ofExcept run
  let reportFiles ← reportSummary settings hostname results
  return (results, reportFiles)

/-- The part of a session after its summary. -/
def finishSession (output : OutputSettings) (settings : Settings) (script : Script)
    (results : List SuiteResult) (reportFiles : List Path) : Task m SessionOutcome := do
  let coverage ← recordCoverage settings script
  let launchFiles ← writeLaunch settings.launchDir settings.launchGeneration settings.launchProject
    results
  noticeFiles output (reportFiles ++ launchFiles)
  return ⟨results, RunSummary.ofResults results, coverage, reportFiles, launchFiles⟩

theorem runSession_eq_parts [LawfulMonad m] (output : OutputSettings) (settings : Settings)
    (hostname : String) (transcript : Path) :
    (runSession output settings hostname transcript : Task m SessionOutcome) = (do
      let (script, suites) ← findSuites settings transcript
      let took ← (Host.callMillis : m (Nat → UInt64))
      let (results, reportFiles) ← (script.interpreter took).runAndSum {} settings hostname suites
      finishSession output settings script results reportFiles) := by
  rw [runSession_eq, runTranscript, findSuites]
  simp only [reportResults, Interpreter.runAndSum, reportSummary, finishSession, bind_assoc, pure_bind]
  rfl

end Parts

theorem Report.recreate_logsOnly {kind : LogEvent → Prop} (dir : Path) :
    LogsOnly kind (recreate dir : Task (StateM World) Unit) := by
  refine (LogsOnly.isThere dir).bind fun there => ?_
  split
  · exact (LogsOnly.ofHost fun _ => rfl).bind fun _ => .ofHost fun _ => rfl
  · exact .ofHost fun _ => rfl

/-- Writing the documents logs nothing but where they are. -/
theorem Report.writeJunit_logsOnly (dir : Path) (results : List SuiteResult) (hostname : String) :
    LogsOnly LogEvent.IsPlace (writeJunit dir results hostname) := by
  refine (recreate_logsOnly dir).bind fun _ => ?_
  induction results with
  | nil => exact .pure _
  | cons s results ih =>
      have told : LogsOnly LogEvent.IsPlace (Task.log .debug
          ("wrote " ++ (dir.child (junitFileName s.moduleName)).text) : Task (StateM World) Unit) :=
        .log (LogEvent.continues_append _ _ _)
      refine (LogsOnly.ofExcept _).bind fun document => ?_
      exact (LogsOnly.ofHost fun _ => rfl).bind fun _ => told.bind fun _ => ih.bind fun _ => .pure _

section Law

/-- Does each judgement on the tests of the suites have one line, in order, and is no other line about a
verdict? -/
structure VerdictsLogged (suites : List Suite) (results : List SuiteResult) (events : List LogEvent) :
    Prop where
  inOrder : (results.flatMap (·.judgements)).map (·.1) = suites.flatMap Suite.calls
  once : List.Forall₂ Judgement.ToldBy (results.flatMap (·.judgements))
    (events.filter (·.verdict?.isSome))

/-- Is the summary logged once and last, can its numbers be read from its line, and does it count the verdicts
that are read from the others? -/
structure SummaryLogged (results : List SuiteResult) (events : List LogEvent) : Prop where
  once : events.filter (·.IsSummary) = [⟨.info, (RunSummary.ofResults results).text⟩]
  last : events.getLast? = some ⟨.info, (RunSummary.ofResults results).text⟩
  read : ∀ e ∈ events, e.IsSummary → RunSummary.read? e.message = some (RunSummary.ofResults results)
  counts : RunSummary.ofResults results =
    ⟨(events.filterMap (·.verdict?)).length, (events.filterMap (·.verdict?)).count .fail,
      (events.filterMap (·.verdict?)).count .error⟩

variable {suites : List Suite} {results : List SuiteResult} {lines wrote : List LogEvent}

theorem silent_of_places (places : ∀ e ∈ wrote, e.IsPlace) (summary : RunSummary) :
    ∀ e ∈ wrote ++ [⟨.info, summary.text⟩], e.verdict? = none := by
  refine List.forall_mem_append.mpr ⟨fun e member => (places e member).verdict?_eq_none, ?_⟩
  exact List.forall_mem_singleton.mpr summary.isSummary.verdict?_eq_none

theorem VerdictsLogged.of_told {others : List LogEvent}
    (inOrder : (results.flatMap (·.judgements)).map (·.1) = suites.flatMap Suite.calls)
    (told : List.Forall₂ Judgement.ToldBy (results.flatMap (·.judgements)) lines)
    (silent : ∀ e ∈ others, e.verdict? = none) :
    VerdictsLogged suites results (lines ++ others) where
  inOrder := inOrder
  once := by
    rw [filter_of_told told silent]
    exact told

theorem summaries_of_told (told : List.Forall₂ Judgement.ToldBy (results.flatMap (·.judgements)) lines)
    (places : ∀ e ∈ wrote, e.IsPlace) (summary : RunSummary) :
    (lines ++ (wrote ++ [LogEvent.mk .info summary.text])).filter (·.IsSummary) =
      [LogEvent.mk .info summary.text] := by
  rw [List.filter_append, List.filter_append,
    List.filter_eq_nil_iff.mpr fun e member => by simpa using not_isSummary_of_told told e member,
    List.filter_eq_nil_iff.mpr fun e member => by simpa using (places e member).not_isSummary]
  simp [RunSummary.isSummary]

theorem SummaryLogged.of_told
    (told : List.Forall₂ Judgement.ToldBy (results.flatMap (·.judgements)) lines)
    (places : ∀ e ∈ wrote, e.IsPlace) :
    SummaryLogged results (lines ++ (wrote ++ [⟨.info, (RunSummary.ofResults results).text⟩])) where
  once := summaries_of_told told places _
  last := by rw [← List.append_assoc, List.getLast?_concat]
  read := by
    intro e member summary
    have only := List.mem_filter (p := fun e => e.IsSummary).mpr ⟨member, decide_eq_true summary⟩
    rw [summaries_of_told told places, List.mem_singleton] at only
    rw [only]
    exact RunSummary.read?_text _
  counts := by
    rw [filterMap_of_told told (silent_of_places places _)]
    exact RunSummary.ofResults_verdicts results

/-- The summary is told if the documents are written, and after what is logged while they are. -/
theorem reportSummary_logs (settings : Settings) (hostname : String) (results : List SuiteResult)
    (w : World) :
    ∃ wrote : List LogEvent, (∀ e ∈ wrote, e.IsPlace) ∧
      ((∃ files v, (reportSummary settings hostname results).on w = (.ok files, v) ∧
          v.logged = LogEvent.mk .info (RunSummary.ofResults results).text :: wrote.reverse ++ w.logged) ∨
        ∃ e v, (reportSummary settings hostname results).on w = (.error e, v) ∧
          (e.IsIo ∨ ∃ s ∈ results, UInt64.size ≤ s.totalMillis ∧ e = .timeOverflow) ∧
          v.logged = wrote.reverse ++ w.logged) := by
  obtain ⟨wrote, logged, places⟩ := writeJunit_logsOnly settings.reportDir results hostname w
  have io (reason : IoError) : Failure.IsIo (.io reason) := ⟨reason, rfl⟩
  refine ⟨wrote, places, ?_⟩
  rw [reportSummary, on_bind]
  rcases written : (writeJunit settings.reportDir results hostname).on w with ⟨result, v⟩
  rw [written] at logged
  cases result with
  | error e =>
      have why : e.IsIo ∨ ∃ s ∈ results, UInt64.size ≤ s.totalMillis ∧ e = .timeOverflow :=
        (writeJunit_on_eq_error io written).imp_right fun ⟨⟨s, member, hasNone⟩, _⟩ =>
          ⟨s, member, junit_eq_error_iff.mp hasNone⟩
      exact .inr ⟨e, v, rfl, why, logged⟩
  | ok files =>
      refine .inl ⟨files, _, rfl, ?_⟩
      rw [List.cons_append, ← logged]

variable {σ : Type} {i : Interpreter σ} {state : σ} {settings : Settings} {w : World}

def World.afterLogging (w : World) (events : List LogEvent) : World :=
  { w with logged := events.reverse ++ w.logged }

theorem Interpreter.runAndSum_on
    (gives : (i.run settings.violationCodes w.now suites state).1 = .ok results) (hostname : String) :
    (i.runAndSum state settings hostname suites).on w =
      (do
        let reportFiles ← reportSummary settings hostname results
        return (results, reportFiles) : Task (StateM World) (List SuiteResult × List Path)).on
        (w.afterLogging (i.run settings.violationCodes w.now suites state).2.logEvents) := by
  rcases ran : i.run settings.violationCodes w.now suites state with ⟨run, after⟩
  rw [ran] at gives
  cases gives
  have now : (Host.now : StateM World Timestamp).run w = (w.now, w) := rfl
  rw [runAndSum, on_bind, on_liftM, now]
  dsimp only
  rw [ran]
  dsimp only
  rw [on_bind, logAll_on]
  dsimp only
  rw [on_bind, on_ofExcept]
  rfl

/-- From the start of its run to its summary a session logs exactly one line with the verdict for each test,
in the order of the tests, whatever interpreter answers, if only it can start.  Where the documents are
written exactly one line with the summary follows, and its numbers are those of the lines with a verdict,
with a failure and with an error.  Where they are not, for the system fails or the times of a suite do not add
up, there is no such line. -/
theorem runSession_logs_verdicts :
    (∀ output settings hostname transcript,
      (runSession output settings hostname transcript : Task (StateM World) SessionOutcome) = do
        let (script, suites) ← findSuites settings transcript
        let took ← (Host.callMillis : StateM World (Nat → UInt64))
        let (results, reportFiles) ← (script.interpreter took).runAndSum {} settings hostname suites
        finishSession output settings script results reportFiles) ∧
    ∀ {σ : Type} (i : Interpreter σ) (state : σ), (i.reset state).1 = .ok () →
      ∀ settings hostname suites (w : World), ∃ results events,
        (i.run settings.violationCodes w.now suites state).1 = .ok results ∧
        ((i.runAndSum state settings hostname suites).on w).2.logged = events.reverse ++ w.logged ∧
        VerdictsLogged suites results events ∧
        ((∃ files, ((i.runAndSum state settings hostname suites).on w).1 = .ok (results, files)) ∧
            SummaryLogged results events ∨
          (∃ e, ((i.runAndSum state settings hostname suites).on w).1 = .error e ∧
              (e.IsIo ∨ ∃ s ∈ results, UInt64.size ≤ s.totalMillis ∧ e = .timeOverflow)) ∧
            ∀ event ∈ events, ¬ event.IsSummary) := by
  refine ⟨runSession_eq_parts, fun i state ready settings hostname suites w => ?_⟩
  obtain ⟨results, gives, inOrder, told⟩ := i.run_logEvents ready settings.violationCodes w.now suites
  rw [i.runAndSum_on gives, on_bind]
  obtain ⟨wrote, places, ⟨files, v, reported, logged⟩ | ⟨e, v, reported, why, logged⟩⟩ :=
    reportSummary_logs settings hostname results
      (w.afterLogging (i.run settings.violationCodes w.now suites state).2.logEvents)
  · rw [reported]
    refine ⟨results, _, gives, ?_, .of_told inOrder told (silent_of_places places _),
      .inl ⟨⟨files, rfl⟩, .of_told told places⟩⟩
    rw [List.reverse_append, List.append_assoc, List.reverse_concat]
    exact logged
  · rw [reported]
    have silent : ∀ e ∈ wrote, e.verdict? = none := fun e member =>
      (places e member).verdict?_eq_none
    refine ⟨results, _, gives, ?_, .of_told inOrder told silent, .inr ⟨⟨e, rfl, why⟩, ?_⟩⟩
    · rw [List.reverse_append, List.append_assoc]
      exact logged
    · exact List.forall_mem_append.mpr ⟨not_isSummary_of_told told, fun e member =>
        (places e member).not_isSummary⟩

end Law

section Samples

open Script

/-- The interpreter of the transcript, where no call takes any time. -/
def replayed : Interpreter ScriptState := replayedScript.interpreter fun _ => 0

theorem runSession_logs_verdicts_replayed :
    (replayed.reset usedState).1 = .ok () ∧ ∃ results events,
      (replayed.run {} ⟨1970, 1, 1, 0, 0, 0, 0⟩ suitesInOrder usedState).1 = .ok results ∧
      ((replayed.runAndSum usedState {} "localhost" suitesInOrder).on {}).2.logged = events.reverse ++ [] ∧
      VerdictsLogged suitesInOrder results events ∧ SummaryLogged results events := by
  have ready : (replayed.reset usedState).1 = .ok () := rfl
  obtain ⟨-, each⟩ := runSession_logs_verdicts
  obtain ⟨results, events, gives, logged, verdicts, ⟨-, summary⟩ | ⟨⟨e, failed, -⟩, -⟩⟩ :=
    each replayed usedState ready {} "localhost" suitesInOrder {}
  · exact ⟨ready, results, events, gives, logged, verdicts, summary⟩
  · have written : ((replayed.runAndSum usedState {} "localhost" suitesInOrder).on {}).1.isOk = true := by
      decide +kernel
    rw [failed] at written
    cases written

example : ((replayed.runAndSum usedState {} "localhost" suitesInOrder).on {}).2.logged.reverse = [
      ⟨.info, "FAIL .. TestQueue`TestPop -- post_Pop"⟩,
      ⟨.info, "ERRR .. TestStack`TestPop -- pre_Pop"⟩,
      ⟨.debug, "PASS .. TestStack`TestPush"⟩,
      ⟨.debug, "wrote build/specrun/junitreports/TEST-TestQueue.xml"⟩,
      ⟨.debug, "wrote build/specrun/junitreports/TEST-TestStack.xml"⟩,
      ⟨.info, "FAILURE -- 1 tests failed, 1 tests had errors [3 tests were run]"⟩] := by
  decide +kernel

end Samples

end SpecTest
