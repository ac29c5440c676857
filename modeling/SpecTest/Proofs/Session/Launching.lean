import SpecTest.Proofs.Session.Entries
import SpecTest.Proofs.Session.Setup
import SpecTest.Proofs.Session.Survival

/-!
Which launch descriptors of earlier sessions are there when a session has ended.

The descriptors come last.  A session that cannot show its coverage ends before their directory is made anew.
-/

namespace SpecTest

open SpecTest.Coverage SpecTest.Data SpecTest.Disk SpecTest.Report SpecTest.Task

variable {w w' v v' : World} {output : OutputSettings} {settings : Settings} {hostname : String}
  {transcript : Path} {script : Script} {result : Except Failure SessionOutcome} {outcome : SessionOutcome}
  {d d' : Disk} {dir : Path} {written : List Path} {fillings : List (Path × List (String × String))}

def IsDescriptor (a : Address) : Prop := ∃ around stem, a = around ++ [stem ++ ".launch"]

/-- Is the directory there, and every descriptor in it that was there before written anew? -/
structure Refreshed (before after : Disk) (dir : Path) (written : List Path) : Prop where
  present : after.isDirectory dir = true
  fresh : ∀ a old new, IsDescriptor a → isInside a (dir.address before.workDir) = true →
    before.find? a = some (.file old) → after.find? a = some (.file new) →
    ∃ p ∈ written, p.address before.workDir = a

/-- Is the directory made, and every descriptor in it cleared or written anew, when these directories are
made anew one after the other?  The working directory must not go with one of them if the path starts there. -/
structure Renews (d : Disk) (dir : Path) (places written : List Path) : Prop where
  valid : dir.Valid
  reaches : d.Reaches dir
  seated : dir.isAbsolute = true ∨ ¬ Unseated d.workDir d.IsDir places
  made : ∀ x ∈ dir.route d.workDir, renewedAll d.workDir d.IsDir places x
  cleared : ∀ a old, IsDescriptor a → isInside a (dir.address d.workDir) = true →
    d.find? a = some (.file old) →
    Cleared d.workDir a d.IsDir places ∨ ∃ p ∈ written, p.address d.workDir = a

section Fillings

/-- Are the descriptors among the files that are written these ones? -/
def DescribesOnly (written : List Path) (filling : Path × List (String × String)) : Prop :=
  ∀ f ∈ filling.2, (∃ stem, f.1 = stem ++ ".xml") ∨ (∃ stem, f.1 = stem ++ ".html") ∨
    filling.1.child f.1 ∈ written

theorem avoids_descriptor {filling : Path × List (String × String)} {workDir a : Address}
    (describes : DescribesOnly written filling) (descriptor : IsDescriptor a)
    (unwritten : ∀ p ∈ written, p.address workDir ≠ a) : Avoids workDir filling.1 filling.2 a := by
  obtain ⟨around, last, rfl⟩ := descriptor
  intro f member
  rcases describes f member with ⟨stem, named⟩ | ⟨stem, named⟩ | descriptor
  · rw [named]
    exact Path.address_child_ne_concat namesEntries_xml (by decide) (by decide)
  · rw [named]
    exact Path.address_child_ne_concat namesEntries_html (by decide) (by decide)
  · exact unwritten _ descriptor

theorem refreshed_iff_renews (refilled : RefilledAll d d' fillings)
    (describes : ∀ filling ∈ fillings, DescribesOnly written filling) :
    Refreshed d d' dir written ↔ Renews d dir (fillings.map (·.1)) written := by
  -- What becomes of a descriptor that is not written anew is told by the directories alone.
  have kept {a : Address} (descriptor : IsDescriptor a)
      (unwritten : ¬ ∃ p ∈ written, p.address d.workDir = a) (text : String) :
      d'.find? a = some (.file text) ↔ d.find? a = some (.file text) ∧
        ¬ Cleared d.workDir a d.IsDir (fillings.map (·.1)) :=
    file_refilledAll_iff refilled fun filling member => avoids_descriptor (describes filling member)
      descriptor fun p listed same => unwritten ⟨p, listed, same⟩
  have present : d'.isDirectory dir = true ↔ dir.Valid ∧
      (d.Reaches dir ∧ (dir.isAbsolute = true ∨ ¬ Unseated d.workDir d.IsDir (fillings.map (·.1)))) ∧
      ∀ x ∈ dir.route d.workDir, renewedAll d.workDir d.IsDir (fillings.map (·.1)) x := by
    rw [isDirectory_iff, refilled.workDir, isDir_refilledAll refilled, reaches_refilledAll_iff refilled]
  constructor
  · intro refreshed
    obtain ⟨valid, ⟨reaches, seated⟩, made⟩ := present.mp refreshed.present
    refine ⟨valid, reaches, seated, made, fun a old descriptor inside before => ?_⟩
    by_cases again : ∃ p ∈ written, p.address d.workDir = a
    · exact .inr again
    · refine .inl (Classical.byContradiction fun notCleared => again ?_)
      exact refreshed.fresh a old old descriptor inside before
        ((kept descriptor again old).mpr ⟨before, notCleared⟩)
  · intro renews
    refine ⟨present.mpr ⟨renews.valid, ⟨renews.reaches, renews.seated⟩, renews.made⟩,
      fun a old new descriptor inside before after => ?_⟩
    rcases renews.cleared a old descriptor inside before with cleared | again
    · refine Classical.byContradiction fun unwritten => ?_
      exact ((kept descriptor unwritten new).mp after).2 cleared
    · exact again

end Fillings

/-- The directories that a session makes anew, in this order: it ends early only before its descriptors, with
the documents if the times of a suite do not add up. -/
def Settings.renewedPlaces (s : Settings) : Except Failure SessionOutcome → List Path
  | .ok _ => s.reportDir :: (s.coveragePlaces ++ s.launchDir.toList)
  | .error .timeOverflow => [s.reportDir]
  | .error _ => s.reportDir :: s.coveragePlaces

theorem Settings.renewedPlaces_of_unfit (s : Settings) {e : Failure} (unfit : e.IsUnfit) :
    s.renewedPlaces (.error e) = s.reportDir :: s.coveragePlaces := by
  cases e with
  | timeOverflow => exact unfit.elim
  | _ => rfl

def launchFilesOf : Except Failure SessionOutcome → List Path
  | .ok outcome => outcome.launchFiles
  | .error _ => []

section Phases

theorem describesOnly_junit {results : List SuiteResult} {documents : List (String × String)}
    (made : junitFiles hostname results = .ok documents) : DescribesOnly written (dir, documents) := by
  have named := (forall_named_iff (junitFiles_eq_ok_iff.mp made) fun name _ => ∃ stem, name = stem ++ ".xml").mp
    fun s _ => ⟨"TEST-" ++ s.moduleName, rfl⟩
  exact fun f member => .inl (named f member)

theorem Launched.describesOnly (launched : Launched settings written d d' fillings) :
    ∀ filling ∈ fillings, DescribesOnly written filling := by
  intro filling member f listed
  rw [launched.paths]
  exact .inr (.inr (List.mem_flatMap.mpr ⟨filling, member, List.mem_map_of_mem listed⟩))

theorem Launched.refreshed {recorded : Disk} (launched : Launched settings written recorded d' fillings)
    (asked : settings.launchDir = some dir) (tree : recorded.IsTree) (sameDir : recorded.workDir = d.workDir)
    (plain : dir.Plain) (named : dir.text ≠ "") : Refreshed d d' dir written := by
  obtain ⟨refilled, places, -, rfl⟩ := launched
  rw [asked] at places
  obtain ⟨⟨place, files⟩, rfl, rfl⟩ := List.map_eq_singleton_iff.mp places
  obtain ⟨_, filled, rfl⟩ := refilled
  refine ⟨filled.isDirectory named, fun a old new _ inside _ there => ?_⟩
  rw [← sameDir] at inside ⊢
  obtain ⟨f, member, here⟩ := mem_of_file_inside tree filled plain named inside there
  have listed : place.child f.1 ∈ files.map (place.child ·.1) := List.mem_map_of_mem member
  exact ⟨place.child f.1, by simpa using listed, here⟩

variable {documents : List (String × String)}

theorem WroteReports.refills (wrote : WroteReports settings hostname outcome documents d d') :
    ∃ fillings, RefilledAll d d' fillings ∧ fillings.map (·.1) = settings.renewedPlaces (.ok outcome) ∧
      ∀ filling ∈ fillings, DescribesOnly outcome.launchFiles filling := by
  obtain ⟨made, -, reported, recorded, covered, launched, suites, coverage, launch⟩ := wrote
  refine ⟨(settings.reportDir, documents) :: (covered ++ launched),
    ⟨reported, suites, coverage.refilled.append launch.refilled⟩, ?_, ?_⟩
  · rw [List.map_cons, List.map_append, coverage.places, launch.places]
    rfl
  · rw [List.forall_mem_cons, List.forall_mem_append]
    exact ⟨describesOnly_junit made, fun filling member f listed => .inr (.inl (coverage.named _ member f listed)),
      launch.describesOnly⟩

theorem WroteReports.refreshed (wrote : WroteReports settings hostname outcome documents d d')
    (asked : settings.launchDir = some dir) (tree : d.IsTree) (plain : dir.Plain) (named : dir.text ≠ "") :
    Refreshed d d' dir outcome.launchFiles := by
  obtain ⟨-, -, reported, recorded, covered, launched, suites, coverage, launch⟩ := wrote
  exact launch.refreshed asked (coverage.refilled.isTree (suites.isTree tree))
    (coverage.refilled.workDir.trans suites.workDir) plain named

theorem announceSuites_failsOnly (kind : Failure → Prop) (transcript : Path) (suites : List Suite) :
    FailsOnly kind (announceSuites transcript suites) := by
  refine (FailsOnly.log _ _).bind fun _ => ?_
  split
  · exact .log _ _
  · exact .pure _

/-- With a good pattern, nothing goes wrong between the check of the transcript and the reports. -/
theorem runTranscript_on_ne_error {selector : Selector} (selected : settings.selector = .ok selector)
    (loaded : (Script.load transcript).on w = (.ok script, v)) (checked : script.check.on v = (.ok (), v'))
    (e : Failure) : (runTranscript settings transcript).on w ≠ (.error e, w') := by
  intro failed
  rcases bind_on_eq_error_iff.mp failed with unloaded | ⟨_, _, again, failed⟩
  · rw [loaded] at unloaded
    cases unloaded
  rw [loaded] at again
  cases again
  rcases bind_on_eq_error_iff.mp failed with unchecked | ⟨_, _, again, failed⟩
  · rw [checked] at unchecked
    cases unchecked
  rcases bind_on_eq_error_iff.mp failed with unselected | ⟨_, _, -, failed⟩
  · rw [on_ofExcept, selected] at unselected
    cases unselected
  refine ((announceSuites_failsOnly (fun _ => False) _ _).bind fun _ =>
    (FailsOnly.liftM _).bind fun took => (FailsOnly.liftM _).bind fun now => ?_) _ _ _ failed
  refine FailsOnly.bind (.forM fun _ => .liftM _) fun _ => FailsOnly.bind (.ofExcept ?_) fun _ => .pure _
  intro e unfinished
  cases unfinished

theorem runSession_fillings {warnings : List LogEvent} (valid : settings.validate = .ok warnings)
    (loaded : (Script.load transcript).on w = (.ok script, v)) (checked : script.check.on v = (.ok (), v'))
    (ran : (runSession output settings hostname transcript).on w = (result, w'))
    (noIo : ∀ e, result = .error e → ¬ e.IsIo) :
    (∃ fillings, RefilledAll w.disk w'.disk fillings ∧ fillings.map (·.1) = settings.renewedPlaces result ∧
      ∀ filling ∈ fillings, DescribesOnly (launchFilesOf result) filling) ∧
    ∀ e, result = .error e → e = .timeOverflow ∨ e.IsUnfit ∧ settings.recordCoverage = true := by
  obtain ⟨⟨selector, selected⟩, launchable⟩ := Settings.validate_eq_ok valid
  cases result with
  | ok outcome =>
      obtain ⟨-, documents, wrote⟩ := runSession_on_eq_ok ran
      exact ⟨wrote.refills, by simp⟩
  | error e =>
      have system : ∀ reason, Failure.IsIo (.io reason) := fun reason => ⟨reason, rfl⟩
      rw [runSession_eq] at ran
      rcases bind_on_eq_error_iff.mp ran with untested | ⟨⟨tested, results⟩, _, silent, failed⟩
      · exact absurd untested (runTranscript_on_ne_error selected loaded checked e)
      have kept := (runTranscript_keepsDisk _ _).disk_eq silent
      rcases reportResults_on_eq_error system launchable failed with
        isIo | ⟨rfl, front, documents, -, made, refilled⟩ |
          ⟨unfit, on, documents, reported, made, refilled, remade⟩
      · exact absurd isIo (noIo e rfl)
      · rw [kept] at refilled
        refine ⟨⟨[(settings.reportDir, documents)], .single refilled, rfl, ?_⟩, ?_⟩
        · exact List.forall_mem_singleton.mpr (describesOnly_junit made)
        · intro _ same
          cases same
          exact .inl rfl
      · rw [kept] at refilled
        refine ⟨⟨[(settings.reportDir, documents), (settings.coverageDir, [])],
          ⟨reported, refilled, .single (.empty remade)⟩, ?_, ?_⟩, ?_⟩
        · rw [settings.renewedPlaces_of_unfit unfit, Settings.coveragePlaces, if_pos on]
          rfl
        · rw [List.forall_mem_cons, List.forall_mem_singleton]
          exact ⟨describesOnly_junit made, by simp [DescribesOnly]⟩
        · intro _ same
          cases same
          exact .inr ⟨unfit, on⟩

end Phases

/-- When a session has ended without an error of the system, its directory of descriptors is there without
old ones exactly where the directories that it has made anew see to that.  One of them is that directory
itself only if the session succeeds, which then is enough in a tree and on a plain path; otherwise the times of
a suite do not add up, or the coverage that is recorded has a location that does not fit. -/
theorem runSession_refreshed_iff {warnings : List LogEvent} (valid : settings.validate = .ok warnings)
    (asked : settings.launchDir = some dir) (loaded : (Script.load transcript).on w = (.ok script, v))
    (checked : script.check.on v = (.ok (), v'))
    (ran : (runSession output settings hostname transcript).on w = (result, w'))
    (noIo : ∀ e, result = .error e → ¬ e.IsIo) :
    (Refreshed w.disk w'.disk dir (launchFilesOf result) ↔
      Renews w.disk dir (settings.renewedPlaces result) (launchFilesOf result)) ∧
    (∀ outcome, result = .ok outcome → w.disk.IsTree → dir.Plain →
      (Refreshed w.disk w'.disk dir outcome.launchFiles ↔ dir.text ≠ "")) ∧
    ∀ e, result = .error e → e = .timeOverflow ∨ e.IsUnfit ∧ settings.recordCoverage = true := by
  obtain ⟨⟨fillings, refilled, places, describes⟩, unfit⟩ := runSession_fillings valid loaded checked ran noIo
  refine ⟨places ▸ refreshed_iff_renews refilled describes, fun outcome succeeded tree plain => ?_, unfit⟩
  cases succeeded
  obtain ⟨-, documents, wrote⟩ := runSession_on_eq_ok ran
  constructor
  · intro refreshed blank
    exact not_isDirectory_of_blank blank refreshed.present
  · exact wrote.refreshed asked tree plain

section Samples

/-- A descriptor of an earlier session. -/
def oldDescriptor : List (Address × Entry) :=
  [(["launch"], .directory), (["launch", "TestStack\x60TestPop.launch"], .file "<launchConfiguration/>")]

def staleWorld : World where
  disk.entries := transcriptWorld.disk.entries ++ oldDescriptor

theorem staleWorld_isTree : staleWorld.disk.IsTree := isTree_of_entries (by decide)

theorem runSession_refreshed_iff_staleWorld :
    ∃ outcome w', (runSession {} twoPlaces "host" ⟨"t.json"⟩).on staleWorld = (.ok outcome, w') ∧
      (Refreshed staleWorld.disk w'.disk ⟨"launch"⟩ outcome.launchFiles ↔
        Renews staleWorld.disk ⟨"launch"⟩ [⟨"junit"⟩, ⟨"launch"⟩] outcome.launchFiles) ∧
      Refreshed staleWorld.disk w'.disk ⟨"launch"⟩ outcome.launchFiles := by
  have gives : ((runSession {} twoPlaces "host" ⟨"t.json"⟩).on staleWorld).1 =
      .ok (stackOutcome "junit/TEST-TestStack.xml") := by decide +kernel
  have ran := on_of_fst gives
  have valid : twoPlaces.validate = .ok [] := by decide +kernel
  have steps := ran
  rw [runSession] at steps
  obtain ⟨script, v, loaded, steps⟩ := bind_on_eq_ok_iff.mp steps
  obtain ⟨⟨⟩, v', checked, -⟩ := bind_on_eq_ok_iff.mp steps
  obtain ⟨renews, succeeds, -⟩ := runSession_refreshed_iff valid rfl loaded checked ran (by simp)
  exact ⟨_, _, ran, renews, (succeeds _ rfl staleWorld_isTree (by decide)).mpr (by decide)⟩

/-- A transcript with a location outside of its text, beside a descriptor of an earlier session. -/
def unfitWorld : World where
  disk.entries := [(["t.json"],
    .file ("\x7b\"modules\": [\x7b\"name\": \"Stack\", \"files\": [\"push\"]\x7d], " ++
      "\"coverage\": [\x7b\"file\": \"push\", \"text\": \"\", \"locations\": [\x7b\"start_line\": 2, " ++
      "\"start_col\": 1, \"end_line\": 2, \"end_col\": 2, \"hits\": 1\x7d]\x7d]\x7d"))] ++ oldDescriptor

def unfitScript : Script where
  transcript.modules := [⟨"Stack", [⟨"push"⟩], []⟩]
  transcript.coverage := [⟨⟨"push"⟩, some "", [⟨.ofNumbers 2 1 2 2, 1⟩]⟩]
  baseDir := ⟨""⟩

def unfitSettings : Settings := { twoPlaces with recordCoverage := true, coverageDir := ⟨"coverage"⟩ }

theorem unfitWorld_fails : ((Script.load ⟨"t.json"⟩).on unfitWorld).1 = .ok unfitScript ∧
    ((runSession {} unfitSettings "host" ⟨"t.json"⟩).on unfitWorld).1 =
      .error (.locationOutOfRange ⟨"push"⟩ (.ofNumbers 2 1 2 2)) := by
  decide +kernel

/-- A session that cannot show its coverage leaves the descriptors of an earlier one where they are. -/
theorem runSession_not_refreshed :
    ¬ ∀ (output : OutputSettings) (settings : Settings) (hostname : String) (transcript dir : Path)
        (script : Script) (warnings : List LogEvent) (result : Except Failure SessionOutcome)
        (w w' v v' : World),
      settings.validate = .ok warnings → settings.launchDir = some dir →
      (Script.load transcript).on w = (.ok script, v) → script.check.on v = (.ok (), v') →
      (runSession output settings hostname transcript).on w = (result, w') →
      (∀ e, result = .error e → ¬ e.IsIo) →
      Refreshed w.disk w'.disk dir (launchFilesOf result) := by
  intro allRefreshed
  obtain ⟨loads, fails⟩ := unfitWorld_fails
  have valid : unfitSettings.validate = .ok [] := by decide +kernel
  have loaded := on_of_fst loads
  have checked (v : World) : unfitScript.check.on v = (.ok (), v) := rfl
  have ran := on_of_fst_error fails
  have noIo : ∀ e, .error (.locationOutOfRange ⟨"push"⟩ (.ofNumbers 2 1 2 2)) =
      (.error e : Except Failure SessionOutcome) → ¬ e.IsIo := by
    intro e same isIo
    obtain ⟨reason, rfl⟩ := isIo
    cases same
  have refreshed := allRefreshed _ _ _ _ _ _ _ _ _ _ _ _ valid rfl loaded (checked _) ran noIo
  obtain ⟨⟨fillings, refilled, places, describes⟩, -⟩ :=
    runSession_fillings valid loaded (checked _) ran noIo
  have renews := (refreshed_iff_renews refilled describes).mp refreshed
  rw [places] at renews
  have cleared := renews.cleared ["launch", "TestStack\x60TestPop.launch"] "<launchConfiguration/>"
    ⟨["launch"], "TestStack\x60TestPop", by decide⟩ (by decide) (by decide)
  rcases cleared with (⟨-, -, inside⟩ | ⟨-, -, inside⟩ | impossible) | ⟨p, unlisted, -⟩
  · exact absurd inside (by decide)
  · exact absurd inside (by decide)
  · exact impossible
  · cases unlisted

end Samples

end SpecTest
