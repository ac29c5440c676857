import SpecTest.Proofs.Coverage.Recording
import SpecTest.Proofs.Report.Sparing
import SpecTest.Proofs.Session.Stages
import SpecTest.Proofs.Session.Suites

/-!
What a session does to the files, phase by phase.
-/

namespace SpecTest

open SpecTest.Coverage SpecTest.Disk SpecTest.Report SpecTest.Task

variable {w w' : World}

theorem Script.load_keepsDisk (file : Path) : KeepsDisk (Script.load file) := by
  refine (KeepsDisk.readText file).bind fun text => ?_
  dsimp only
  split
  · exact .throw _
  · split
    · exact .throw _
    · exact (KeepsDisk.log _ _).bind fun _ => .pure _

theorem Script.load_validate {file : Path} {script : Script}
    (loaded : (Script.load file).on w = (.ok script, w')) : script.transcript.validate = .ok () := by
  obtain ⟨text, v, -, rest⟩ := bind_on_eq_ok_iff.mp loaded
  dsimp only at rest
  split at rest
  · cases rest
  · split at rest
    · cases rest
    · rename_i valid
      cases rest
      exact valid

theorem Script.discover_distinct {file : Path} {script : Script}
    (loaded : (Script.load file).on w = (.ok script, w')) (selector : Selector) :
    ((selector.discover script.modules).map (·.moduleName)).Nodup :=
  discover_distinct_of_valid (load_validate loaded) selector

theorem Script.check_keepsDisk (script : Script) : KeepsDisk script.check := by
  refine (KeepsDisk.logAll _).bind fun _ => ?_
  split
  · exact .throw _
  · exact .pure _

theorem Script.source_keepsDisk (script : Script) : script.source.KeepsDisk where
  texts file := by
    dsimp only [Script.source]
    split
    · exact .pure _
    · exact .readText _
  hits _ := .pure _

theorem announceSuites_keepsDisk (transcript : Path) (suites : List Suite) :
    KeepsDisk (announceSuites transcript suites) := by
  refine (KeepsDisk.log _ _).bind fun _ => ?_
  split
  · exact .log _ _
  · exact .pure _

theorem runTranscript_keepsDisk (settings : Settings) (transcript : Path) :
    KeepsDisk (runTranscript settings transcript) := by
  refine (Script.load_keepsDisk transcript).bind fun script => ?_
  refine (Script.check_keepsDisk script).bind fun _ => ?_
  refine (KeepsDisk.ofExcept _).bind fun selector => ?_
  refine (announceSuites_keepsDisk _ _).bind fun _ => ?_
  refine KeepsDisk.callMillis.bind fun took => KeepsDisk.now.bind fun now => ?_
  exact (KeepsDisk.logAll _).bind fun _ => (KeepsDisk.ofExcept _).bind fun _ => .pure _

variable {output : OutputSettings} {settings : Settings} {hostname : String} {transcript : Path}
  {outcome : SessionOutcome} {script : Script} {results : List SuiteResult}

/-- The tests of a transcript give one suite of results for each module at most. -/
theorem runTranscript_distinct
    (done : (runTranscript settings transcript).on w = (.ok (script, results), w')) :
    (results.map (·.moduleName)).Nodup := by
  obtain ⟨loaded, v₁, load, rest⟩ := bind_on_eq_ok_iff.mp done
  obtain ⟨⟨⟩, v₂, -, rest⟩ := bind_on_eq_ok_iff.mp rest
  obtain ⟨selector, v₃, -, rest⟩ := bind_on_eq_ok_iff.mp rest
  obtain ⟨⟨⟩, v₄, -, rest⟩ := bind_on_eq_ok_iff.mp rest
  obtain ⟨took, v₅, -, rest⟩ := bind_on_eq_ok_iff.mp rest
  obtain ⟨now, v₆, -, rest⟩ := bind_on_eq_ok_iff.mp rest
  obtain ⟨⟨⟩, v₇, -, rest⟩ := bind_on_eq_ok_iff.mp rest
  obtain ⟨finished, v₈, ran, rest⟩ := bind_on_eq_ok_iff.mp rest
  cases rest
  have gives : ((script.interpreter took).run settings.violationCodes now
      (selector.discover script.modules) {}).1 = .ok results := (Prod.mk.inj ran).1
  rw [Interpreter.run_names gives]
  exact Script.discover_distinct load selector

def Settings.coveragePlaces (s : Settings) : List Path :=
  if s.recordCoverage then [s.coverageDir] else []

/-- The pages of the coverage were written if it is recorded, and the index if there is a summary. -/
structure Covered (settings : Settings) (summary : Option CoverageSummary) (d d' : Disk)
    (fillings : List (Path × List (String × String))) : Prop where
  refilled : RefilledAll d d' fillings
  places : fillings.map (·.1) = settings.coveragePlaces
  named : ∀ c ∈ fillings, ∀ f ∈ c.2, ∃ stem, f.1 = stem ++ ".html"
  index : summary.isSome → ∃ pages index,
    fillings = [(settings.coverageDir, pages ++ [(indexFileName, index)])]

structure Launched (settings : Settings) (paths : List Path) (d d' : Disk)
    (fillings : List (Path × List (String × String))) : Prop where
  refilled : RefilledAll d d' fillings
  places : fillings.map (·.1) = settings.launchDir.toList
  named : ∀ l ∈ fillings, ∀ f ∈ l.2, ∃ stem, f.1 = stem ++ ".launch"
  paths : paths = fillings.flatMap fun l => l.2.map (l.1.child ·.1)

/-- What a session writes: the documents of the suites, then the pages of the coverage, then the
launch descriptors. -/
structure WroteReports (settings : Settings) (hostname : String) (outcome : SessionOutcome)
    (documents : List (String × String)) (d d' : Disk) : Prop where
  made : junitFiles hostname outcome.results = .ok documents
  reportFiles : outcome.reportFiles = documents.map (settings.reportDir.child ·.1)
  inOrder : ∃ reported recorded covered launched, Refilled d reported settings.reportDir documents ∧
    Covered settings outcome.coverage reported recorded covered ∧
    Launched settings outcome.launchFiles recorded d' launched

theorem Settings.recorder?_eq_some {r : Recorder} (asked : settings.recorder? = some r) :
    settings.recordCoverage = true ∧ r.outputDir = settings.coverageDir := by
  rw [recorder?] at asked
  split at asked
  · rename_i on
    cases asked
    refine ⟨on, ?_⟩
    split <;> rfl
  · cases asked

theorem Settings.recorder?_eq_none (asked : settings.recorder? = none) :
    settings.recordCoverage = false := by
  rw [recorder?] at asked
  split at asked
  · cases asked
  · rename_i off
    simpa using off

theorem recordCoverage_covers {recorded : Option CoverageSummary}
    (done : (recordCoverage settings script).on w = (.ok recorded, w')) :
    ∃ covered, Covered settings recorded w.disk w'.disk covered := by
  rw [recordCoverage] at done
  cases asked : settings.recorder? with
  | none =>
      rw [asked] at done
      cases done
      have noPlaces : settings.coveragePlaces = [] := by
        rw [Settings.coveragePlaces, Settings.recorder?_eq_none asked]
        rfl
      exact ⟨[], rfl, noPlaces.symm, by simp, by simp⟩
  | some r =>
      rw [asked] at done
      obtain ⟨on, place⟩ := Settings.recorder?_eq_some asked
      obtain ⟨files, v, written, collected, refilled, listed, -, named⟩ := record_on_eq_ok done
      rw [(collect_keepsDisk script.source_keepsDisk).disk_eq collected, place] at refilled
      refine ⟨[(settings.coverageDir, written)], .single refilled, ?_, by simpa using named, ?_⟩
      · rw [Settings.coveragePlaces, if_pos on]
        rfl
      · intro isSome
        obtain ⟨summary, found⟩ := Option.isSome_iff_exists.mp isSome
        obtain ⟨-, pages, -, rfl⟩ := listed summary found
        exact ⟨pages, summary.index, rfl⟩

theorem writeLaunch_launches {paths : List Path}
    (written : (writeLaunch settings.launchDir settings.launchGeneration settings.launchProject
      results).on w = (.ok paths, w')) :
    ∃ launched, Launched settings paths w.disk w'.disk launched := by
  obtain ⟨launched, refilled, places, files, paths⟩ := writeLaunch_on_eq_ok written
  refine ⟨launched, refilled, places, fun l member f inside => ?_, paths⟩
  have listed : f ∈ launched.flatMap (·.2) := List.mem_flatMap.mpr ⟨l, member, inside⟩
  rw [files] at listed
  exact launchFiles_named f listed

theorem noticeFiles_keepsDisk (output : OutputSettings) (files : List Path) :
    KeepsDisk (noticeFiles output files) := by
  rw [noticeFiles]
  split
  · exact .forM fun _ => .notice _
  · exact .pure _

/-- The report of results holds them and their summary, tells of a descriptor for each selected test, and
nothing but what it tells of is written. -/
theorem reportResults_on_eq_ok
    (done : (reportResults output settings hostname script results).on w = (.ok outcome, w')) :
    outcome.results = results ∧ outcome.summary = RunSummary.ofResults results ∧
      outcome.launchFiles.length = (settings.launchGeneration.selected results).length ∧
      ∃ documents, WroteReports settings hostname outcome documents w.disk w'.disk := by
  obtain ⟨reportFiles, v₁, reported, rest⟩ := bind_on_eq_ok_iff.mp done
  obtain ⟨⟨⟩, v₂, summed, rest⟩ := bind_on_eq_ok_iff.mp rest
  obtain ⟨coverage, v₃, recorded, rest⟩ := bind_on_eq_ok_iff.mp rest
  obtain ⟨launchFiles, v₄, written, rest⟩ := bind_on_eq_ok_iff.mp rest
  obtain ⟨⟨⟩, v₅, told, rest⟩ := bind_on_eq_ok_iff.mp rest
  cases rest
  obtain ⟨documents, made, named, refilled⟩ := writeJunit_on_eq_ok reported
  obtain ⟨covered, pages⟩ := recordCoverage_covers recorded
  obtain ⟨launched, descriptors⟩ := writeLaunch_launches written
  rw [← (KeepsDisk.log _ _).disk_eq summed] at refilled
  rw [← (noticeFiles_keepsDisk _ _).disk_eq told] at descriptors
  exact ⟨rfl, rfl, writeLaunch_length written, documents, made, named, _, _, covered, launched, refilled, pages,
    descriptors⟩

/-- A session has one result for each module, and nothing but its reports changes the files. -/
theorem runSession_on_eq_ok
    (ran : (runSession output settings hostname transcript).on w = (.ok outcome, w')) :
    (outcome.results.map (·.moduleName)).Nodup ∧
      ∃ documents, WroteReports settings hostname outcome documents w.disk w'.disk := by
  rw [runSession_eq] at ran
  obtain ⟨⟨script, results⟩, v, tested, reported⟩ := bind_on_eq_ok_iff.mp ran
  obtain ⟨rfl, -, -, documents, wrote⟩ := reportResults_on_eq_ok reported
  rw [(runTranscript_keepsDisk _ _).disk_eq tested] at wrote
  exact ⟨runTranscript_distinct tested, documents, wrote⟩

end SpecTest
