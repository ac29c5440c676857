import SpecTest.Coverage.Recorder
import SpecTest.Proofs.Coverage.PageLayout
import SpecTest.Proofs.Path.Child
import SpecTest.Proofs.Report.Directories

/-!
Which pages are there after the coverage was recorded.

Pages are named after modules, and all of them share one directory with the index.
-/

namespace SpecTest.Coverage

open SpecTest.Data SpecTest.Disk SpecTest.Report SpecTest.Task

variable {w w' : World} {r : Recorder} {source : Source (StateM World)} {modules : List ModuleInfo}
  {files : List FileCoverage}

theorem collect_on_eq_ok (done : (r.collect source modules).on w = (.ok files, w')) :
    files.map (fun f => (f.moduleName, f.file)) = r.files modules := by
  rw [Recorder.collect] at done
  generalize r.files modules = wanted at done ⊢
  induction wanted generalizing w files with
  | nil =>
      cases done
      rfl
  | cons file wanted ih =>
      rw [List.mapM_cons] at done
      obtain ⟨first, v, one, rest⟩ := bind_on_eq_ok_iff.mp done
      obtain ⟨others, v', later, all⟩ := bind_on_eq_ok_iff.mp rest
      obtain ⟨text, v₁, -, texted⟩ := bind_on_eq_ok_iff.mp one
      obtain ⟨hits, v₂, -, counted⟩ := bind_on_eq_ok_iff.mp texted
      cases all
      cases counted
      rw [List.map_cons, ih later]
      rfl

structure Source.KeepsDisk (source : Source (StateM World)) : Prop where
  texts : ∀ file, (source.text file).KeepsDisk
  hits : ∀ file, (source.hits file).KeepsDisk

theorem collect_keepsDisk (keeps : source.KeepsDisk) : (r.collect source modules).KeepsDisk :=
  .mapM fun _ => (keeps.texts _).bind fun _ => (keeps.hits _).bind fun _ => .pure _

theorem pages_eq_ok {pages : List (String × String)} (shown : Recorder.pages files = .ok pages) :
    pages.map (fun p => (p.1, Except.ok p.2)) = files.map fun f => (f.pageName, f.page) := by
  refine mapM_named_eq_ok_iff.mp ?_
  exact shown

theorem indexFileName_eq : indexFileName = "report" ++ ".html" := by decide

theorem forall_pages_iff {pages : List (String × String)} (shown : Recorder.pages files = .ok pages)
    (holds : String → Except Failure String → Prop) :
    (∀ f ∈ files, holds f.pageName f.page) ↔ ∀ p ∈ pages, holds p.1 (.ok p.2) :=
  forall_named_iff (pages_eq_ok shown) holds

/-- What recording writes, whether there are locations or not. -/
theorem record_on_eq_ok {recorded : Option CoverageSummary}
    (done : (r.record source modules).on w = (.ok recorded, w')) :
    ∃ files v written, (r.collect source modules).on w = (.ok files, v) ∧
      Refilled v.disk w'.disk r.outputDir written ∧
      (∀ summary, recorded = some summary → summary = .ofFiles files ∧
        ∃ pages, Recorder.pages files = .ok pages ∧ written = pages ++ [(indexFileName, summary.index)]) ∧
      (recorded = none → written = []) ∧ ∀ f ∈ written, ∃ stem, f.1 = stem ++ ".html" := by
  obtain ⟨files, v, collected, rest⟩ := bind_on_eq_ok_iff.mp done
  obtain ⟨⟨⟩, v₁, emptied, rest⟩ := bind_on_eq_ok_iff.mp rest
  obtain ⟨pages, v₂, unchanged, rest⟩ := bind_on_eq_ok_iff.mp rest
  obtain ⟨shown, rfl⟩ := Prod.mk.inj ((on_ofExcept _ _).symm.trans unchanged)
  have remade := recreate_on_eq_ok emptied
  by_cases blank : (CoverageSummary.ofFiles files).isEmpty = true
  · rw [if_pos blank] at rest
    cases rest
    exact ⟨files, v, [], collected, .empty remade, by simp, fun _ => rfl, by simp⟩
  · rw [if_neg blank] at rest shown
    obtain ⟨⟨⟩, v₃, logged, rest⟩ := bind_on_eq_ok_iff.mp rest
    obtain ⟨paths, v₄, written, finished⟩ := bind_on_eq_ok_iff.mp rest
    cases logged
    cases finished
    refine ⟨files, v, _, collected, ⟨_, remade, (writeFiles_on_eq_ok written).2⟩, ?_, ?_, ?_⟩
    · intro _ same
      cases same
      exact ⟨rfl, pages, shown, rfl⟩
    · intro impossible
      cases impossible
    · rw [List.forall_mem_append, List.forall_mem_singleton]
      exact ⟨(forall_pages_iff shown fun name _ => ∃ stem, name = stem ++ ".html").mp
        fun f _ => ⟨f.moduleName, rfl⟩, "report", indexFileName_eq⟩

theorem pairwise_pages_iff {pages : List (String × String)} (shown : Recorder.pages files = .ok pages)
    (agree : String × Except Failure String → String × Except Failure String → Prop) :
    (files.Pairwise fun f g => agree (f.pageName, f.page) (g.pageName, g.page)) ↔
      pages.Pairwise fun p q => agree (p.1, .ok p.2) (q.1, .ok q.2) :=
  pairwise_named_iff (pages_eq_ok shown) agree

theorem index_start (summary : CoverageSummary) :
    ∃ rest, summary.index = "<html data-theme=\"vdm\">\n" ++ rest := by
  unfold CoverageSummary.index
  simp only [String.append_assoc, -String.reduceAppend]
  exact ⟨_, rfl⟩

/-- No page is taken for the index: the two differ in their first line. -/
theorem page_ne_index {f : FileCoverage} {html : String} (shown : f.page = .ok html)
    (summary : CoverageSummary) : html ≠ summary.index := by
  obtain ⟨marks, left, -, rfl⟩ := FileCoverage.page_eq_ok shown
  obtain ⟨rest, start⟩ := index_start summary
  rw [start]
  intro same
  have sixth := congrArg (·.toList[5]?) same
  simp [pageStart] at sixth

/-- Does every file have its page under its own name, and is the index there beside them? -/
def PagesRead (d : Disk) (dir : Path) (files : List FileCoverage) : Prop :=
  (∀ f ∈ files, ∃ html, f.page = .ok html ∧ d.readText (dir.child f.pageName) = .ok html) ∧
    d.readText (dir.child indexFileName) = .ok (CoverageSummary.ofFiles files).index

/-- Do the pages have places of their own?  Only files with one and the same page may share it. -/
structure PagesApart (workDir : Address) (dir : Path) (files : List FileCoverage) : Prop where
  fromIndex : ∀ f ∈ files,
    (dir.child f.pageName).address workDir ≠ (dir.child indexFileName).address workDir
  fromOthers : files.Pairwise fun f g =>
    (dir.child f.pageName).address workDir = (dir.child g.pageName).address workDir → f.page = g.page

theorem pagesRead_iff {d d' : Disk} {dir : Path} {pages : List (String × String)}
    (shown : Recorder.pages files = .ok pages)
    (refilled : Refilled d d' dir (pages ++ [(indexFileName, (CoverageSummary.ofFiles files).index)])) :
    PagesRead d' dir files ↔ PagesApart d.workDir dir files := by
  have notIndex : ∀ p ∈ pages, p.2 ≠ (CoverageSummary.ofFiles files).index := by
    have differ := (forall_pages_iff shown fun _ page =>
      ∀ html, page = .ok html → html ≠ (CoverageSummary.ofFiles files).index).mp
        fun f _ html page => page_ne_index page _
    exact fun p member => differ p member p.2 rfl
  have readPages := forall_pages_iff shown fun name page =>
    ∃ html, page = .ok html ∧ d'.readText (dir.child name) = .ok html
  have fromIndex := forall_pages_iff shown fun name _ =>
    (dir.child name).address d.workDir ≠ (dir.child indexFileName).address d.workDir
  have fromOthers := pairwise_pages_iff shown fun x y =>
    (dir.child x.1).address d.workDir = (dir.child y.1).address d.workDir → x.2 = y.2
  have reads := refilled.readText_iff
  rw [List.forall_mem_append, List.forall_mem_singleton, List.pairwise_append] at reads
  have places : PagesApart d.workDir dir files ↔ _ ∧ _ :=
    ⟨fun apart => ⟨apart.fromIndex, apart.fromOthers⟩, fun ⟨fromIndex, fromOthers⟩ => ⟨fromIndex, fromOthers⟩⟩
  rw [PagesRead, readPages, places, fromIndex, fromOthers]
  simp only [Except.ok.injEq, exists_eq_left']
  rw [reads]
  simp only [List.pairwise_singleton, List.mem_singleton, forall_eq, true_and]
  constructor
  · intro reads
    obtain ⟨fromOthers, fromIndex⟩ := reads
    exact ⟨fun p member same => notIndex p member (fromIndex p member same), fromOthers⟩
  · intro places
    obtain ⟨fromIndex, fromOthers⟩ := places
    exact ⟨fromOthers, fun p member same => absurd same (fromIndex p member)⟩

section PlainNames

variable {workDir : Address} {dir : Path}

theorem namesEntries_html : Path.NamesEntries ".html" := ⟨by decide, by decide⟩

theorem pagesApart_iff_of_plain (plain : ∀ f ∈ files, '/' ∉ f.moduleName.toList) :
    PagesApart workDir dir files ↔ (∀ f ∈ files, f.moduleName ≠ "report") ∧
      files.Pairwise fun f g => f.moduleName = g.moduleName → f.page = g.page := by
  have fromIndex {f : FileCoverage} (member : f ∈ files) :
      (dir.child f.pageName).address workDir = (dir.child indexFileName).address workDir ↔
        f.moduleName = "report" := by
    rw [indexFileName_eq]
    exact Path.address_child_inj namesEntries_html (plain f member) (by decide)
  have fromOther {f g : FileCoverage} (first : f ∈ files) (second : g ∈ files) :
      (dir.child f.pageName).address workDir = (dir.child g.pageName).address workDir ↔
        f.moduleName = g.moduleName :=
    Path.address_child_inj namesEntries_html (plain f first) (plain g second)
  constructor
  · intro apart
    exact ⟨fun f member same => apart.fromIndex f member ((fromIndex member).mpr same),
      apart.fromOthers.imp_of_mem fun first second agree same => agree ((fromOther first second).mpr same)⟩
  · intro names
    obtain ⟨named, agree⟩ := names
    exact ⟨fun f member same => named f member ((fromIndex member).mp same),
      agree.imp_of_mem fun first second agree same => agree ((fromOther first second).mp same)⟩

end PlainNames

/-- Every row of a recorded summary leads to the page of its own file, and the index is there, exactly
where no page has the place of the index or of a different page.  With plain module names that is
where no module is called `report` and files of one module have one page. -/
theorem record_pagesRead_iff {summary : CoverageSummary}
    (done : (r.record source modules).on w = (.ok (some summary), w')) :
    ∃ files v, (r.collect source modules).on w = (.ok files, v) ∧
      files.map (fun f => (f.moduleName, f.file)) = r.files modules ∧
      summary = .ofFiles files ∧
      (PagesRead w'.disk r.outputDir files ↔ PagesApart w'.disk.workDir r.outputDir files) ∧
      ((∀ info ∈ modules, '/' ∉ info.name.toList) →
        (PagesRead w'.disk r.outputDir files ↔ (∀ f ∈ files, f.moduleName ≠ "report") ∧
          files.Pairwise fun f g => f.moduleName = g.moduleName → f.page = g.page)) := by
  obtain ⟨files, v, written, collected, refilled, recorded, -⟩ := record_on_eq_ok done
  obtain ⟨rfl, pages, shown, rfl⟩ := recorded summary rfl
  have rows := collect_on_eq_ok collected
  have reads := pagesRead_iff shown refilled
  rw [← refilled.workDir] at reads
  refine ⟨files, v, collected, rows, rfl, reads, fun plain => reads.trans (pagesApart_iff_of_plain ?_)⟩
  intro f member
  have listed : (f.moduleName, f.file) ∈ r.files modules := by
    rw [← rows]
    exact List.mem_map_of_mem member
  obtain ⟨info, recorded, named⟩ := List.mem_flatMap.mp listed
  obtain ⟨file, -, same⟩ := List.mem_map.mp named
  rw [← (Prod.mk.inj same).1]
  exact plain info (List.mem_filter.mp recorded).1

section Samples

def nameSource : Source (StateM World) where
  text file := pure file.text
  hits _ := pure [⟨.ofNumbers 1 1 1 2, 1⟩]

def nameRecorder : Recorder := ⟨none, ⟨"coverage"⟩⟩

def nameCoverage (moduleName file : String) : FileCoverage :=
  (FileCoverage.blank ⟨file⟩ moduleName file).withHits [⟨.ofNumbers 1 1 1 2, 1⟩]

def twoModules : List ModuleInfo := [⟨"Queue", [⟨"queue"⟩], []⟩, ⟨"Stack", [⟨"stack"⟩], []⟩]

theorem twoModules_pagesRead_iff :
    ∃ summary w', (nameRecorder.record nameSource twoModules).on {} = (.ok (some summary), w') ∧
    ∃ files v, (nameRecorder.collect nameSource twoModules).on {} = (.ok files, v) ∧
      files.map (fun f => (f.moduleName, f.file)) = nameRecorder.files twoModules ∧
      summary = .ofFiles files ∧
      (PagesRead w'.disk nameRecorder.outputDir files ↔
        PagesApart w'.disk.workDir nameRecorder.outputDir files) ∧
      ((∀ info ∈ twoModules, '/' ∉ info.name.toList) →
        (PagesRead w'.disk nameRecorder.outputDir files ↔ (∀ f ∈ files, f.moduleName ≠ "report") ∧
          files.Pairwise fun f g => f.moduleName = g.moduleName → f.page = g.page)) := by
  have gives : ((nameRecorder.record nameSource twoModules).on {}).1 =
      .ok (some (.ofFiles [nameCoverage "Queue" "queue", nameCoverage "Stack" "stack"])) := by
    decide +kernel
  exact ⟨_, _, on_of_fst gives, record_pagesRead_iff (on_of_fst gives)⟩

def stackModules : List ModuleInfo := [⟨"Stack", [⟨"push"⟩, ⟨"pop"⟩], []⟩]

def stackFiles : List FileCoverage := [nameCoverage "Stack" "push", nameCoverage "Stack" "pop"]

/-- Of two files of one module, the page of the first is lost. -/
theorem record_not_pagesRead :
    ¬ ∀ (r : Recorder) (source : Source (StateM World)) (modules : List ModuleInfo) (w w' v : World)
        (files : List FileCoverage) (summary : CoverageSummary),
      (modules.map (·.name)).Nodup → (r.collect source modules).on w = (.ok files, v) →
      (r.record source modules).on w = (.ok (some summary), w') →
      PagesRead w'.disk r.outputDir files := by
  intro allRead
  have collected : (nameRecorder.collect nameSource stackModules).on {} = (.ok stackFiles, {}) := rfl
  have gives : ((nameRecorder.record nameSource stackModules).on {}).1 =
      .ok (some (.ofFiles stackFiles)) := by decide +kernel
  obtain ⟨pages, -⟩ := allRead _ _ _ _ _ _ _ _ (by decide) collected (on_of_fst gives)
  obtain ⟨html, page, found⟩ := pages (nameCoverage "Stack" "push") List.mem_cons_self
  have lost : (nameCoverage "Stack" "push").page.toOption ≠
      (((nameRecorder.record nameSource stackModules).on {}).2.disk.readText
        (nameRecorder.outputDir.child (nameCoverage "Stack" "push").pageName)).toOption := by
    decide +kernel
  rw [page, found] at lost
  exact lost rfl

end Samples

end SpecTest.Coverage
