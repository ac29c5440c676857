import SpecTest.Proofs.Session.Phases

/-!
Which reports of a session are there when it has ended.

Every kind of report has a directory of its own that is made anew, so that a later kind may clear what
an earlier one wrote.
-/

namespace SpecTest

open SpecTest.Coverage SpecTest.Data SpecTest.Disk SpecTest.Report SpecTest.Task

variable {w w' : World} {output : OutputSettings} {settings : Settings} {hostname : String}
  {transcript : Path} {outcome : SessionOutcome} {d d' : Disk}

def Settings.junitPath (s : Settings) (suite : SuiteResult) : Path :=
  s.reportDir.child (junitFileName suite.moduleName)

def Settings.indexPath (s : Settings) : Path := s.coverageDir.child indexFileName

/-- Are the reports that a session tells of there, each document with the results of its suite? -/
structure SessionOutcome.Survives (outcome : SessionOutcome) (settings : Settings) (hostname : String)
    (d : Disk) : Prop where
  junit : ∀ suite ∈ outcome.results, ∃ document, junit suite hostname = .ok document ∧
    d.readText (settings.junitPath suite) = .ok document
  launch : ∀ file ∈ outcome.launchFiles, d.HasFile file
  index : outcome.coverage.isSome → d.HasFile settings.indexPath

/-- Do the reports outlast the directories that are made anew after them, on the files that the session
starts with?  The places of different documents have to be different too. -/
structure SessionOutcome.Outlasts (outcome : SessionOutcome) (settings : Settings) (hostname : String)
    (d : Disk) : Prop where
  apart : outcome.results.Pairwise fun suite other =>
    (settings.junitPath suite).address d.workDir = (settings.junitPath other).address d.workDir →
      junit suite hostname = junit other hostname
  junit : ∀ suite ∈ outcome.results,
    Spared d.workDir (settings.junitPath suite) (renewed d.workDir d.IsDir settings.reportDir)
      (settings.coveragePlaces ++ settings.launchDir.toList)
  index : outcome.coverage.isSome →
    Spared d.workDir settings.indexPath
      (renewed d.workDir (renewed d.workDir d.IsDir settings.reportDir) settings.coverageDir)
      settings.launchDir.toList

section Endings

variable {workDir : Address} {dir other : Path} {files : List (String × String)} {stem : String}

theorem namesEntries_xml : Path.NamesEntries ".xml" := ⟨by decide, by decide⟩

theorem namesEntries_launch : Path.NamesEntries ".launch" := ⟨by decide, by decide⟩

theorem avoids_of_ending {ending otherEnding : String} (names : Path.NamesEntries ending)
    (otherNames : Path.NamesEntries otherEnding) (first : ¬ ending.toList <:+ otherEnding.toList)
    (second : ¬ otherEnding.toList <:+ ending.toList)
    (named : ∀ f ∈ files, ∃ stem, f.1 = stem ++ ending) :
    Avoids workDir dir files ((other.child (stem ++ otherEnding)).address workDir) := by
  intro f member
  obtain ⟨front, name⟩ := named f member
  rw [name]
  exact Path.address_child_ne names otherNames first second

end Endings

theorem Covered.avoids {fillings : List (Path × List (String × String))} {summary : Option CoverageSummary}
    (covered : Covered settings summary d d' fillings) (suite : SuiteResult) {workDir : Address} :
    ∀ c ∈ fillings, Avoids workDir c.1 c.2 ((settings.junitPath suite).address workDir) :=
  fun c member => avoids_of_ending namesEntries_html namesEntries_xml (by decide) (by decide)
    (covered.named c member)

theorem Launched.avoids {fillings : List (Path × List (String × String))} {paths : List Path}
    (launched : Launched settings paths d d' fillings) (suite : SuiteResult) {workDir : Address} :
    ∀ l ∈ fillings, Avoids workDir l.1 l.2 ((settings.junitPath suite).address workDir) :=
  fun l member => avoids_of_ending namesEntries_launch namesEntries_xml (by decide) (by decide)
    (launched.named l member)

theorem Launched.avoidsIndex {fillings : List (Path × List (String × String))} {paths : List Path}
    (launched : Launched settings paths d d' fillings) {workDir : Address} :
    ∀ l ∈ fillings, Avoids workDir l.1 l.2 (settings.indexPath.address workDir) := by
  intro l member
  rw [Settings.indexPath, indexFileName_eq]
  exact avoids_of_ending namesEntries_launch namesEntries_html (by decide) (by decide)
    (launched.named l member)

/-- The documents of the suites outlast what is made anew after them exactly where each has a place of
its own that is spared. -/
theorem junit_survives_iff {reported : Disk} {fillings : List (Path × List (String × String))}
    {results : List SuiteResult} {documents : List (String × String)}
    (made : junitFiles hostname results = .ok documents)
    (written : Refilled d reported settings.reportDir documents) (later : RefilledAll reported d' fillings)
    (avoids : ∀ suite, ∀ filling ∈ fillings,
      Avoids d.workDir filling.1 filling.2 ((settings.junitPath suite).address d.workDir)) :
    (∀ suite ∈ results, ∃ document, junit suite hostname = .ok document ∧
        d'.readText (settings.junitPath suite) = .ok document) ↔
      (results.Pairwise fun suite other =>
        (settings.junitPath suite).address d.workDir = (settings.junitPath other).address d.workDir →
          junit suite hostname = junit other hostname) ∧
      ∀ suite ∈ results, Spared d.workDir (settings.junitPath suite)
        (renewed d.workDir d.IsDir settings.reportDir) (fillings.map (·.1)) := by
  have named := junitFiles_eq_ok_iff.mp made
  have first : (∀ suite ∈ results, ∃ document, junit suite hostname = .ok document ∧
        reported.readText (settings.junitPath suite) = .ok document) ↔
      results.Pairwise fun suite other =>
        (settings.junitPath suite).address d.workDir = (settings.junitPath other).address d.workDir →
          junit suite hostname = junit other hostname := by
    have reads := forall_named_iff named fun name document =>
      ∃ text, document = .ok text ∧ reported.readText (settings.reportDir.child name) = .ok text
    have apart := pairwise_named_iff named fun x y =>
      (settings.reportDir.child x.1).address d.workDir = (settings.reportDir.child y.1).address d.workDir →
        x.2 = y.2
    simp only [Except.ok.injEq, exists_eq_left'] at reads apart
    exact reads.trans (written.readText_iff.trans apart.symm)
  have each : ∀ suite ∈ results, ((∃ document, junit suite hostname = .ok document ∧
        d'.readText (settings.junitPath suite) = .ok document) ↔
      (∃ document, junit suite hostname = .ok document ∧
        reported.readText (settings.junitPath suite) = .ok document) ∧
        Spared d.workDir (settings.junitPath suite)
          (renewed d.workDir d.IsDir settings.reportDir) (fillings.map (·.1))) := by
    intro suite member
    obtain ⟨document, has, listed⟩ := mem_junitFiles made member
    simp only [has, Except.ok.injEq, exists_eq_left']
    exact readText_child_iff written later listed (avoids suite) document
  rw [← first]
  constructor
  · intro survives
    exact ⟨fun suite member => ((each suite member).mp (survives suite member)).1,
      fun suite member => ((each suite member).mp (survives suite member)).2⟩
  · intro both suite member
    obtain ⟨holds, spared⟩ := both
    exact (each suite member).mpr ⟨holds suite member, spared suite member⟩

theorem index_survives_iff {recorded : Disk} {files : List (String × String)} {index : String}
    {fillings : List (Path × List (String × String))} {paths : List Path}
    (written : Refilled d recorded settings.coverageDir (files ++ [(indexFileName, index)]))
    (launched : Launched settings paths recorded d' fillings) :
    d'.HasFile settings.indexPath ↔ Spared d.workDir settings.indexPath
      (renewed d.workDir d.IsDir settings.coverageDir) settings.launchDir.toList := by
  have listed : (indexFileName, index) ∈ files ++ [(indexFileName, index)] := by simp
  have outlasts {text : String} : d'.readText settings.indexPath = .ok text ↔
      recorded.readText settings.indexPath = .ok text ∧ Spared d.workDir settings.indexPath
        (renewed d.workDir d.IsDir settings.coverageDir) settings.launchDir.toList := by
    have read := readText_child_iff written launched.refilled listed launched.avoidsIndex text
    rwa [launched.places] at read
  constructor
  · intro hasFile
    obtain ⟨text, found⟩ := hasFile
    exact (outlasts.mp found).2
  · intro spared
    obtain ⟨text, found⟩ := written.hasFile listed
    exact ⟨text, outlasts.mpr ⟨found, spared⟩⟩

theorem Launched.hasFile {fillings : List (Path × List (String × String))} {paths : List Path}
    (launched : Launched settings paths d d' fillings) : ∀ file ∈ paths, d'.HasFile file := by
  obtain ⟨refilled, places, -, rfl⟩ := launched
  cases place : settings.launchDir with
  | none =>
      rw [place] at places
      rw [List.map_eq_nil_iff.mp places]
      simp
  | some dir =>
      rw [place] at places
      obtain ⟨filling, rfl, -⟩ := List.map_eq_singleton_iff.mp places
      obtain ⟨_, written, rfl⟩ := refilled
      intro file member
      rw [List.flatMap_singleton] at member
      obtain ⟨f, listed, rfl⟩ := List.mem_map.mp member
      exact written.hasFile listed

structure Settings.PlainPlaces (s : Settings) : Prop where
  report : s.reportDir.Plain
  coverage : s.coverageDir.Plain
  launch : ∀ dir ∈ s.launchDir, dir.Plain

/-- Is each directory of reports neither one that holds earlier reports, nor around such a one? -/
structure SessionOutcome.KeepsClear (outcome : SessionOutcome) (settings : Settings)
    (workDir : Address) : Prop where
  junit : outcome.results ≠ [] → ∀ dir ∈ settings.coveragePlaces ++ settings.launchDir.toList,
    ¬ Around workDir dir settings.reportDir
  index : outcome.coverage.isSome → ∀ dir ∈ settings.launchDir.toList,
    ¬ Around workDir dir settings.coverageDir

theorem noSlash_junitStem {moduleName : String} (noSlash : '/' ∉ moduleName.toList) :
    '/' ∉ ("TEST-" ++ moduleName).toList := by
  rw [String.toList_append, List.mem_append, not_or]
  exact ⟨by decide, noSlash⟩

theorem address_junitPath_inj {workDir : Address} {suite other : SuiteResult}
    (noSlash : '/' ∉ suite.moduleName.toList) (otherNoSlash : '/' ∉ other.moduleName.toList) :
    (settings.junitPath suite).address workDir = (settings.junitPath other).address workDir ↔
      suite.moduleName = other.moduleName := by
  rw [← String.append_right_inj "TEST-"]
  exact Path.address_child_inj namesEntries_xml (noSlash_junitStem noSlash) (noSlash_junitStem otherNoSlash)

theorem Covered.plain {fillings : List (Path × List (String × String))} {summary : Option CoverageSummary}
    (covered : Covered settings summary d d' fillings) (plain : settings.PlainPlaces) :
    ∀ dir ∈ fillings.map (·.1), dir.Plain := by
  rw [covered.places, Settings.coveragePlaces]
  split
  · simpa using plain.coverage
  · simp

theorem Launched.plain {fillings : List (Path × List (String × String))} {paths : List Path}
    (launched : Launched settings paths d d' fillings) (plain : settings.PlainPlaces) :
    ∀ dir ∈ fillings.map (·.1), dir.Plain := by
  rw [launched.places]
  exact fun dir member => plain.launch dir (Option.mem_toList.mp member)

section Wrote

variable {documents : List (String × String)}
  (wrote : WroteReports settings hostname outcome documents d d')
include wrote

theorem WroteReports.reportFiles_eq : outcome.reportFiles = outcome.results.map settings.junitPath := by
  have names := names_of_named (junitFiles_eq_ok_iff.mp wrote.made)
  have named := congrArg (List.map settings.reportDir.child) names
  rw [List.map_map, List.map_map] at named
  exact wrote.reportFiles.trans named

theorem survives_iff_outlasts :
    outcome.Survives settings hostname d' ↔ outcome.Outlasts settings hostname d := by
  obtain ⟨made, -, reported, recorded, covered, launched, suites, coverage, launch⟩ := wrote
  have avoids : ∀ suite, ∀ filling ∈ covered ++ launched, Avoids d.workDir filling.1 filling.2
      ((settings.junitPath suite).address d.workDir) :=
    fun suite => List.forall_mem_append.mpr ⟨coverage.avoids suite, launch.avoids suite⟩
  have survive := junit_survives_iff made suites (coverage.refilled.append launch.refilled) avoids
  rw [List.map_append, coverage.places, launch.places] at survive
  have index (isSome : outcome.coverage.isSome) : d'.HasFile settings.indexPath ↔
      Spared d.workDir settings.indexPath
        (renewed d.workDir (renewed d.workDir d.IsDir settings.reportDir) settings.coverageDir)
        settings.launchDir.toList := by
    obtain ⟨pages, index, rfl⟩ := coverage.index isSome
    obtain ⟨_, written, same⟩ := coverage.refilled
    cases same
    have outlasts := index_survives_iff written launch
    rwa [suites.workDir, isDir_refilled suites] at outlasts
  constructor
  · intro survives
    obtain ⟨apart, spared⟩ := survive.mp survives.junit
    exact ⟨apart, spared, fun isSome => (index isSome).mp (survives.index isSome)⟩
  · intro outlasts
    exact ⟨survive.mpr ⟨outlasts.apart, outlasts.junit⟩, launch.hasFile,
      fun isSome => (index isSome).mpr (outlasts.index isSome)⟩

/-- In a tree and on plain paths, reports outlast everything but a directory made anew around them. -/
theorem outlasts_iff_keepsClear (distinct : (outcome.results.map (·.moduleName)).Nodup)
    (tree : d.IsTree) (plain : settings.PlainPlaces)
    (noSlash : ∀ suite ∈ outcome.results, '/' ∉ suite.moduleName.toList) :
    outcome.Outlasts settings hostname d ↔ outcome.KeepsClear settings d.workDir := by
  obtain ⟨made, -, reported, recorded, covered, launched, suites, coverage, launch⟩ := wrote
  have apart : outcome.results.Pairwise fun suite other =>
      (settings.junitPath suite).address d.workDir = (settings.junitPath other).address d.workDir →
        junit suite hostname = junit other hostname := by
    refine (List.pairwise_map.mp distinct).imp_of_mem fun first second different same => ?_
    exact absurd ((address_junitPath_inj (noSlash _ first) (noSlash _ second)).mp same) different
  have spare : ∀ suite ∈ outcome.results,
      (Spared d.workDir (settings.junitPath suite) (renewed d.workDir d.IsDir settings.reportDir)
        (settings.coveragePlaces ++ settings.launchDir.toList) ↔
        ∀ dir ∈ settings.coveragePlaces ++ settings.launchDir.toList,
          ¬ Around d.workDir dir settings.reportDir) := by
    intro suite member
    obtain ⟨document, -, listed⟩ := mem_junitFiles made member
    have plainDirs : ∀ dir ∈ (covered ++ launched).map (·.1), dir.Plain := by
      rw [List.map_append]
      exact List.forall_mem_append.mpr ⟨coverage.plain plain, launch.plain plain⟩
    have spared := spared_child_iff_of_plain tree suites (coverage.refilled.append launch.refilled) listed
      plain.report plainDirs namesEntries_xml (noSlash_junitStem (noSlash suite member)) rfl
      (List.forall_mem_append.mpr ⟨coverage.avoids suite, launch.avoids suite⟩)
    rwa [List.map_append, coverage.places, launch.places] at spared
  have index (isSome : outcome.coverage.isSome) :
      Spared d.workDir settings.indexPath
        (renewed d.workDir (renewed d.workDir d.IsDir settings.reportDir) settings.coverageDir)
        settings.launchDir.toList ↔
      ∀ dir ∈ settings.launchDir.toList, ¬ Around d.workDir dir settings.coverageDir := by
    obtain ⟨pages, index, rfl⟩ := coverage.index isSome
    obtain ⟨_, written, same⟩ := coverage.refilled
    cases same
    have listed : (indexFileName, index) ∈ pages ++ [(indexFileName, index)] := by simp
    have spared := spared_child_iff_of_plain (suites.isTree tree) written launch.refilled listed
      plain.coverage (launch.plain plain) namesEntries_html (by decide) indexFileName_eq
      launch.avoidsIndex
    rwa [suites.workDir, isDir_refilled suites, launch.places] at spared
  constructor
  · intro outlasts
    refine ⟨fun some => ?_, fun isSome => (index isSome).mp (outlasts.index isSome)⟩
    obtain ⟨suite, member⟩ := List.exists_mem_of_ne_nil _ some
    exact (spare suite member).mp (outlasts.junit suite member)
  · intro clear
    exact ⟨apart, fun suite member => (spare suite member).mpr (clear.junit (List.ne_nil_of_mem member)),
      fun isSome => (index isSome).mpr (clear.index isSome)⟩

end Wrote

/-- The reports of a session survive it exactly where they outlast the directories that are made anew
after them.  On plain paths in a tree that is where no such directory holds earlier reports or is around
one that does. -/
theorem runSession_survives_iff
    (ran : (runSession output settings hostname transcript).on w = (.ok outcome, w')) :
    outcome.reportFiles = outcome.results.map settings.junitPath ∧
      (outcome.Survives settings hostname w'.disk ↔ outcome.Outlasts settings hostname w.disk) ∧
      (w.disk.IsTree → settings.PlainPlaces →
        (∀ suite ∈ outcome.results, '/' ∉ suite.moduleName.toList) →
        (outcome.Survives settings hostname w'.disk ↔ outcome.KeepsClear settings w.disk.workDir)) := by
  obtain ⟨distinct, documents, wrote⟩ := runSession_on_eq_ok ran
  have survives := survives_iff_outlasts wrote
  refine ⟨wrote.reportFiles_eq, survives, fun tree plain noSlash => ?_⟩
  exact survives.trans (outlasts_iff_keepsClear wrote distinct tree plain noSlash)

section Samples

def transcriptWorld : World where
  disk.entries := [(["t.json"],
    .file ("\x7b\"modules\": [\x7b\"name\": \"TestStack\", \"operations\": " ++
      "[\x7b\"name\": \"TestPush\"\x7d]\x7d]\x7d"))]

def stackOutcome (reportFile : String) : SessionOutcome where
  results := [⟨"TestStack", transcriptWorld.now, [⟨"TestPush", 0, .pass, none⟩]⟩]
  summary := ⟨1, 0, 0⟩
  coverage := none
  reportFiles := [⟨reportFile⟩]
  launchFiles := []

def twoPlaces : Settings :=
  { reportDir := ⟨"junit"⟩, launchDir := some ⟨"launch"⟩, launchGeneration := .none }

theorem runSession_survives_iff_twoPlaces :
    ∃ outcome w', (runSession {} twoPlaces "host" ⟨"t.json"⟩).on transcriptWorld = (.ok outcome, w') ∧
      outcome.reportFiles = outcome.results.map twoPlaces.junitPath ∧
      (outcome.Survives twoPlaces "host" w'.disk ↔
        outcome.Outlasts twoPlaces "host" transcriptWorld.disk) ∧
      (transcriptWorld.disk.IsTree → twoPlaces.PlainPlaces →
        (∀ suite ∈ outcome.results, '/' ∉ suite.moduleName.toList) →
        (outcome.Survives twoPlaces "host" w'.disk ↔
          outcome.KeepsClear twoPlaces transcriptWorld.disk.workDir)) := by
  have gives : ((runSession {} twoPlaces "host" ⟨"t.json"⟩).on transcriptWorld).1 =
      .ok (stackOutcome "junit/TEST-TestStack.xml") := by decide +kernel
  exact ⟨_, _, on_of_fst gives, runSession_survives_iff (on_of_fst gives)⟩

def onePlace : Settings :=
  { reportDir := ⟨"out"⟩, launchDir := some ⟨"out"⟩, launchGeneration := .none }

/-- Launch descriptors that share the directory of the documents make it anew and clear these, even
where none is written. -/
theorem runSession_not_survives :
    ¬ ∀ (output : OutputSettings) (settings : Settings) (hostname : String) (transcript : Path)
        (w w' : World) (outcome : SessionOutcome),
      settings.validate.isOk = true →
      (runSession output settings hostname transcript).on w = (.ok outcome, w') →
      outcome.Survives settings hostname w'.disk := by
  intro allSurvive
  have valid : onePlace.validate.isOk = true := by decide +kernel
  have gives : ((runSession {} onePlace "host" ⟨"t.json"⟩).on transcriptWorld).1 =
      .ok (stackOutcome "out/TEST-TestStack.xml") := by decide +kernel
  have survives := allSurvive _ _ _ _ _ _ _ valid (on_of_fst gives)
  obtain ⟨document, -, found⟩ := survives.junit ⟨"TestStack", transcriptWorld.now, [⟨"TestPush", 0, .pass, none⟩]⟩
    List.mem_cons_self
  have lost : (((runSession {} onePlace "host" ⟨"t.json"⟩).on transcriptWorld).2.disk.readText
      (onePlace.junitPath ⟨"TestStack", transcriptWorld.now, [⟨"TestPush", 0, .pass, none⟩]⟩)).isOk =
      false := by decide +kernel
  rw [found] at lost
  exact Bool.noConfusion lost

end Samples

end SpecTest
