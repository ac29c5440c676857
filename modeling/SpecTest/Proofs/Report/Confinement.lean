import SpecTest.Proofs.Coverage.Recording
import SpecTest.Proofs.Host.Touching

/-!
Where reports are written.

The names of pages and of launch descriptors are made of the names of modules and tests, and a name with a
slash may lead out of the directory that is made anew for them.
-/

namespace SpecTest.Report

open SpecTest.Coverage SpecTest.Disk SpecTest.Task

variable {α : Type} {w w' : World} {d d' : Disk} {dir : Path} {paths : Path → Prop}
  {files : List (String × String)} {names : List String}

section Names

variable {workDir : Address} {name : String}

/-- Does the name lead to an entry of the directory itself? -/
def NamesChild (workDir : Address) (dir : Path) (name : String) : Prop :=
  ∃ last, (dir.child name).address workDir = dir.address workDir ++ [last]

/-- Does the name end so that its last part is the name of an entry? -/
def HasEnding (name : String) : Prop := ∃ stem ending, Path.NamesEntries ending ∧ name = stem ++ ending

theorem namesChild_of_plain (ends : HasEnding name) (noSlash : '/' ∉ name.toList) :
    NamesChild workDir dir name := by
  obtain ⟨stem, ending, named, rfl⟩ := ends
  exact ⟨_, Path.address_child noSlash (Path.partOf?_ending named stem)⟩

def launchNames (g : LaunchGeneration) (results : List SuiteResult) : List String :=
  (g.selected results).map fun t => launchFileName t.1 t.2

theorem launchFiles_names (g : LaunchGeneration) (project : String) (results : List SuiteResult) :
    (launchFiles g project results).map (·.1) = launchNames g results := by
  rw [launchFiles, launchNames, List.map_map]
  rfl

theorem launchNames_ending (g : LaunchGeneration) (results : List SuiteResult) :
    ∀ name ∈ launchNames g results, HasEnding name := by
  refine List.forall_mem_map.mpr fun t _ => ?_
  exact ⟨t.1 ++ "\x60" ++ t.2, ".launch", ⟨by decide, by decide⟩, rfl⟩

def pageNames (r : Recorder) (modules : List ModuleInfo) : List String :=
  (r.files modules).map (·.1 ++ ".html") ++ [indexFileName]

theorem pageNames_ending (r : Recorder) (modules : List ModuleInfo) :
    ∀ name ∈ pageNames r modules, HasEnding name := by
  rw [pageNames, List.forall_mem_append, List.forall_mem_map, List.forall_mem_singleton]
  exact ⟨fun file _ => ⟨file.1, ".html", namesEntries_html, rfl⟩,
    "report", ".html", namesEntries_html, indexFileName_eq⟩

end Names

section Refilling

theorem touches_of_remade (remade : Remade d d' dir) : Disk.Touches dir paths d d' := by
  refine ⟨remade.workDir, fun a text there => ?_, fun a text there => ?_⟩
  · rw [remade.find?] at there
    split at there
    · cases there
    · split at there
      · cases there
      · exact .inl there
  · rw [remade.find?]
    have notOnWay : a ∉ dir.route d.workDir := fun onWay => remade.onWay a onWay text there
    rw [if_neg notOnWay]
    split
    · rename_i cleared
      exact .inr (.inl cleared.2)
    · exact .inl there

theorem touches_of_writeAll {placed : List (Path × String)} (written : d.writeAll placed = .ok d')
    (named : ∀ f ∈ placed, paths f.1) : Disk.Touches dir paths d d' := by
  induction placed generalizing d with
  | nil =>
      cases written
      exact .refl _
  | cons file rest ih =>
      obtain ⟨middle, first, later⟩ := writeAll_cons_eq_ok_iff.mp written
      obtain ⟨namedFirst, namedLater⟩ := List.forall_mem_cons.mp named
      exact (Touches.of_writeText first namedFirst).trans (ih later namedLater)

theorem Refilled.touches (refilled : Refilled d d' dir files)
    (named : ∀ f ∈ files, paths (dir.child f.1)) : Disk.Touches dir paths d d' := by
  obtain ⟨middle, remade, inOrder⟩ := refilled
  exact (touches_of_remade remade).trans (touches_of_writeAll inOrder (List.forall_mem_map.mpr named))

/-- Where a directory was filled, files outside it are as before exactly if no name leads to one that did
not hold what was written already. -/
theorem Refilled.confined_iff (refilled : Refilled d d' dir files) :
    Confined dir d d' ↔ ∀ name ∈ files.map (·.1), NamesChild d.workDir dir name ∨
      d'.find? ((dir.child name).address d.workDir) = d.find? ((dir.child name).address d.workDir) := by
  rw [List.forall_mem_map]
  constructor
  · intro confined f member
    obtain ⟨text, read⟩ := refilled.hasFile member
    have there := (refilled.readText_eq_ok_iff member).mp read
    by_cases same : d'.find? ((dir.child f.1).address d.workDir) =
        d.find? ((dir.child f.1).address d.workDir)
    · exact .inr same
    · exact .inl (confined.written _ text there fun before => same (there.trans before.symm))
  · intro inside
    have touches : Disk.Touches dir (fun p => ∃ f ∈ files, p = dir.child f.1) d d' :=
      refilled.touches fun f member => ⟨f, member, rfl⟩
    refine touches.confined fun q named => ?_
    obtain ⟨f, member, rfl⟩ := named
    exact inside f member

end Refilling

section Running

theorem recreate_touches (dir : Path) : (recreate dir : Task (StateM World) Unit).Touches dir paths := by
  refine Touches.bind (.of_keepsDisk fun _ => rfl) fun _ there _ _ => ?_
  split
  · exact Touches.removeTree.bind fun _ _ _ _ => .createTree dir
  · exact .createTree dir

theorem writeFiles_touches (named : ∀ f ∈ files, paths (dir.child f.1)) :
    (writeFiles dir files).Touches dir paths := by
  induction files with
  | nil => exact .of_keepsDisk (.pure _)
  | cons file files ih =>
      obtain ⟨namedFirst, namedLater⟩ := List.forall_mem_cons.mp named
      exact (Touches.writeText namedFirst _).bind fun _ _ _ _ =>
        (ih namedLater).bind fun _ _ _ _ => .of_keepsDisk (.pure _)

/-- The paths of the names in the directory. -/
def childrenOf (dir : Path) (names : List String) (p : Path) : Prop := ∃ name ∈ names, p = dir.child name

theorem writeLaunch_touches (dir : Path) (g : LaunchGeneration) (project : Option String)
    (results : List SuiteResult) :
    (writeLaunch (some dir) g project results).Touches dir (childrenOf dir (launchNames g results)) := by
  refine (recreate_touches dir).bind fun _ _ _ _ => ?_
  split
  · exact .of_keepsDisk (.pure _)
  · cases project with
    | none => exact .of_keepsDisk (.throw _)
    | some project =>
        have named : ∀ f ∈ launchFiles g project results,
            childrenOf dir (launchNames g results) (dir.child f.1) := by
          intro f member
          refine ⟨f.1, ?_, rfl⟩
          rw [← launchFiles_names g project results]
          exact List.mem_map_of_mem member
        exact (writeFiles_touches named).bind fun _ _ _ _ =>
          (Touches.of_keepsDisk (.log _ _)).bind fun _ _ _ _ => .of_keepsDisk (.pure _)

theorem pages_names {r : Recorder} {source : Source (StateM World)} {modules : List ModuleInfo}
    {covered : List FileCoverage} (collected : (r.collect source modules).on w = (.ok covered, w'))
    {pages : List (String × String)} (shown : Recorder.pages covered = .ok pages) (index : String) :
    (pages ++ [(indexFileName, index)]).map (·.1) = pageNames r modules := by
  have pageNamed : pages.map (·.1) = covered.map (·.pageName) := by
    have named := congrArg (List.map (·.1)) (pages_eq_ok shown)
    rwa [List.map_map, List.map_map] at named
  rw [List.map_append, pageNamed, pageNames, ← collect_on_eq_ok collected, List.map_map]
  rfl

theorem record_touches (r : Recorder) {source : Source (StateM World)} (keeps : source.KeepsDisk)
    (modules : List ModuleInfo) :
    (r.record source modules).Touches r.outputDir (childrenOf r.outputDir (pageNames r modules)) := by
  refine (Touches.of_keepsDisk (collect_keepsDisk keeps)).bind fun w covered v collected => ?_
  refine (recreate_touches _).bind fun _ _ _ _ => ?_
  refine (Touches.of_keepsDisk (.ofExcept _)).bind fun _ pages _ shown => ?_
  split
  · exact (Touches.of_keepsDisk (.log _ _)).bind fun _ _ _ _ => .of_keepsDisk (.pure _)
  · rename_i notEmpty
    rw [if_neg notEmpty, on_ofExcept] at shown
    have named : ∀ f ∈ pages ++ [(indexFileName, (CoverageSummary.ofFiles covered).index)],
        childrenOf r.outputDir (pageNames r modules) (r.outputDir.child f.1) := by
      intro f member
      refine ⟨f.1, ?_, rfl⟩
      rw [← pages_names collected (Prod.mk.inj shown).1]
      exact List.mem_map_of_mem member
    exact (Touches.of_keepsDisk (.log _ _)).bind fun _ _ _ _ =>
      (writeFiles_touches named).bind fun _ _ _ _ => .of_keepsDisk (.pure _)

end Running

/-- A task makes a directory anew and writes files with these names there.  However it ends, it touches
nothing else, and it stays inside the directory if no name has a slash.  Where it succeeds, the files
that it tells of are there, and it stayed inside exactly if no name led to a file elsewhere that did not
hold that text already. -/
structure WritesInto (x : Task (StateM World) α) (dir : Path) (names : List String)
    (written : α → List String) : Prop where
  touches : x.Touches dir (childrenOf dir names)
  confined : (∀ name ∈ names, '/' ∉ name.toList) → ∀ w, Confined dir w.disk (x.on w).2.disk
  hasFile : ∀ w a w', x.on w = (.ok a, w') → ∀ name ∈ written a, w'.disk.HasFile (dir.child name)
  confined_iff : ∀ w a w', x.on w = (.ok a, w') → (Confined dir w.disk w'.disk ↔
    ∀ name ∈ written a, NamesChild w.disk.workDir dir name ∨
      w'.disk.find? ((dir.child name).address w.disk.workDir) =
        w.disk.find? ((dir.child name).address w.disk.workDir))

theorem WritesInto.of_refilled {x : Task (StateM World) α} {written : α → List String}
    (touches : x.Touches dir (childrenOf dir names)) (ends : ∀ name ∈ names, HasEnding name)
    (refills : ∀ w a w', x.on w = (.ok a, w') →
      ∃ files, Refilled w.disk w'.disk dir files ∧ files.map (·.1) = written a) :
    WritesInto x dir names written where
  touches := touches
  confined noSlashes w := by
    refine (touches w).confined fun q named => ?_
    obtain ⟨name, member, rfl⟩ := named
    exact .inl (namesChild_of_plain (ends name member) (noSlashes name member))
  hasFile w a w' done := by
    obtain ⟨files, refilled, named⟩ := refills w a w' done
    rw [← named, List.forall_mem_map]
    exact fun f member => refilled.hasFile member
  confined_iff w a w' done := by
    obtain ⟨files, refilled, named⟩ := refills w a w' done
    rw [refilled.confined_iff, named]

theorem record_writesInto (r : Recorder) {source : Source (StateM World)} (keeps : source.KeepsDisk)
    (modules : List ModuleInfo) :
    WritesInto (r.record source modules) r.outputDir (pageNames r modules)
      fun recorded => if recorded.isSome then pageNames r modules else [] := by
  refine .of_refilled (record_touches r keeps modules) (pageNames_ending r modules) ?_
  intro w recorded w' done
  obtain ⟨covered, v, written, collected, refilled, listed, blank, -⟩ := record_on_eq_ok done
  rw [(collect_keepsDisk keeps).disk_eq collected] at refilled
  refine ⟨written, refilled, ?_⟩
  cases recorded with
  | none =>
      rw [blank rfl]
      rfl
  | some summary =>
      obtain ⟨-, pages, shown, rfl⟩ := listed summary rfl
      exact pages_names collected shown _

theorem writeLaunch_writesInto (dir : Path) (g : LaunchGeneration) (project : Option String)
    (results : List SuiteResult) :
    WritesInto (writeLaunch (some dir) g project results) dir (launchNames g results)
      fun _ => launchNames g results := by
  refine .of_refilled (writeLaunch_touches dir g project results) (launchNames_ending g results) ?_
  intro w paths w' done
  exact ⟨_, (writeLaunch_refilled done).2, launchFiles_names g _ results⟩

/-- Pages and descriptors are written into the directory that is made anew for them, under names that are
followed from there. -/
theorem reports_writeInto {source : Source (StateM World)} (keeps : source.KeepsDisk) (r : Recorder)
    (modules : List ModuleInfo) (dir : Path) (g : LaunchGeneration) (project : Option String)
    (results : List SuiteResult) :
    (WritesInto (r.record source modules) r.outputDir (pageNames r modules)
      fun recorded => if recorded.isSome then pageNames r modules else []) ∧
    WritesInto (writeLaunch (some dir) g project results) dir (launchNames g results)
      fun _ => launchNames g results :=
  ⟨record_writesInto r keeps modules, writeLaunch_writesInto dir g project results⟩

section Samples

theorem nameSource_keepsDisk : nameSource.KeepsDisk := ⟨fun _ => .pure _, fun _ => .pure _⟩

theorem twoModules_writesInto : nameSource.KeepsDisk ∧
    (WritesInto (nameRecorder.record nameSource twoModules) ⟨"coverage"⟩
        ["Queue.html", "Stack.html", "report.html"]
        fun recorded => if recorded.isSome then ["Queue.html", "Stack.html", "report.html"] else []) ∧
      WritesInto (writeLaunch (some ⟨"launch"⟩) .all (some "specs")
        [⟨"TestStack", default, [⟨"TestPush", 0, .pass, none⟩]⟩]) ⟨"launch"⟩
        ["TestStack\x60TestPush.launch"] fun _ => ["TestStack\x60TestPush.launch"] :=
  ⟨nameSource_keepsDisk, reports_writeInto nameSource_keepsDisk nameRecorder twoModules _ _ _ _⟩

def outsideModules : List ModuleInfo := [⟨"../notes", [⟨"notes"⟩], []⟩]

def outsideResults : List SuiteResult := [⟨"../Stack", default, [⟨"TestPush", 0, .pass, none⟩]⟩]

def notesDisk : Disk where
  entries := [(["work"], .directory), (["work", "notes.html"], .file "my notes")]
  workDir := ["work"]

/-- A page takes the place of a file beside its directory, and a descriptor is put beside its own. -/
theorem reports_not_confined :
    (¬ ∀ (r : Recorder) (source : Source (StateM World)) (modules : List ModuleInfo) (w : World),
      source.KeepsDisk → Confined r.outputDir w.disk ((r.record source modules).on w).2.disk) ∧
    ¬ ∀ (dir : Path) (g : LaunchGeneration) (project : Option String) (results : List SuiteResult)
      (w : World), Confined dir w.disk ((writeLaunch (some dir) g project results).on w).2.disk := by
  constructor
  · intro confined
    have inside := (confined nameRecorder nameSource outsideModules { disk := notesDisk }
      nameSource_keepsDisk).kept ["work", "notes.html"] "my notes" (by decide)
    exact absurd (inside (by decide +kernel)) (by decide)
  · intro confined
    let after := ((writeLaunch (some ⟨"launch"⟩) .all (some "specs") outsideResults).on
      { disk := notesDisk }).2.disk
    have absent : notesDisk.find? ["work", "Stack\x60TestPush.launch"] = none := by decide
    obtain ⟨text, there⟩ : ∃ text, after.find? ["work", "Stack\x60TestPush.launch"] = some (.file text) :=
      exists_file (by decide +kernel) (by decide +kernel)
    obtain ⟨name, same⟩ := (confined ⟨"launch"⟩ .all (some "specs") outsideResults
      { disk := notesDisk }).written _ text there (by simp [absent])
    have address : (⟨"launch"⟩ : Path).address ["work"] = ["work", "launch"] := by decide
    rw [notesDisk, address] at same
    exact absurd (congrArg List.length same) (by simp)

end Samples

end SpecTest.Report
