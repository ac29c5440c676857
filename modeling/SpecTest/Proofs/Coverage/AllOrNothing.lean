import SpecTest.Proofs.Coverage.Clearing
import SpecTest.Proofs.Coverage.Fitting
import SpecTest.Proofs.Report.Contents

/-!
Recording is all or nothing: pages are written only where every page can be shown.

Where there is no location, or where a page cannot be shown, the recording ends with the directory as it was
made anew.  It is empty then if making it anew empties it.
-/

namespace SpecTest.Coverage

open SpecTest.Data SpecTest.Disk SpecTest.Report SpecTest.Task

variable {w w' v made : World} {d d' : Disk} {dir : Path} {e : Failure} {r : Recorder}
  {source : Source (StateM World)} {modules : List ModuleInfo} {files : List FileCoverage}
  {pages : List (String × String)} {result : Except Failure (Option CoverageSummary)}

section Outcomes

/-- Does the path lead to a directory that holds nothing? -/
def IsEmptyDirectory (d : Disk) (dir : Path) : Prop :=
  d.isDirectory dir = true ∧ ∀ a, isInside a (dir.address d.workDir) = true → d.find? a = none

/-- Is there a location, and can all pages be shown? -/
def AllShown (files : List FileCoverage) : Prop :=
  (∃ f ∈ files, f.locations ≠ []) ∧ ∀ f ∈ files, ∃ html, f.page = .ok html

/-- How a recording ends and what it has written, where `emptied` are the files right after the directory
was made anew. -/
structure AllOrNothing (files : List FileCoverage) (dir : Path) (emptied after : Disk)
    (result : Except Failure (Option CoverageSummary)) : Prop where
  blank : (∀ f ∈ files, f.locations = []) → result = .ok none ∧ after = emptied
  /-- The first file whose page cannot be shown gives the failure. -/
  unshown : (∃ f ∈ files, f.locations ≠ []) → ∀ front f back e, files = front ++ f :: back →
    (∀ g ∈ front, ∃ html, g.page = .ok html) → f.page = .error e → result = .error e ∧ after = emptied
  shown : AllShown files → result = .ok (some (.ofFiles files)) ∧
    (∀ f ∈ files, after.HasFile (dir.child f.pageName)) ∧ after.HasFile (dir.child indexFileName)

theorem isEmpty_ofFiles_iff :
    (CoverageSummary.ofFiles files).isEmpty = true ↔ ∀ f ∈ files, f.locations = [] := by
  have rows : (CoverageSummary.ofFiles files).total = sumOf (files.map fun f => f.hits.size) := by
    change sumOf ((files.map (·.stats)).map (·.total)) = _
    rw [List.map_map]
    rfl
  rw [CoverageSummary.isEmpty, beq_iff_eq, rows, sumOf_map_eq_zero_iff]
  refine forall₂_congr fun f _ => ?_
  rw [FileCoverage.locations, List.map_eq_nil_iff]
  exact List.length_eq_zero_iff

theorem pages_eq_error_iff : Recorder.pages files = .error e ↔ ∃ front f back, files = front ++ f :: back ∧
    (∀ g ∈ front, ∃ html, g.page = .ok html) ∧ f.page = .error e := by
  have named (f : FileCoverage) : (do return (f.pageName, ← f.page) : Except Failure (String × String)) =
      f.page.map fun html => (f.pageName, html) := by
    cases f.page <;> rfl
  simp only [Recorder.pages, mapM_eq_error_iff, named, exists_map_eq_ok_iff, map_eq_error_iff]

theorem exists_pages_iff : (∃ pages, Recorder.pages files = .ok pages) ↔
    ∀ f ∈ files, ∃ html, f.page = .ok html := by
  constructor
  · intro all
    obtain ⟨pages, shown⟩ := all
    exact (forall_pages_iff shown fun _ page => ∃ html, page = .ok html).mpr fun p _ => ⟨p.2, rfl⟩
  · intro each
    cases shown : Recorder.pages files with
    | ok pages => exact ⟨pages, rfl⟩
    | error e =>
        obtain ⟨front, f, back, rfl, -, failed⟩ := pages_eq_error_iff.mp shown
        obtain ⟨html, page⟩ := each f (by simp)
        rw [page] at failed
        cases failed

namespace AllOrNothing

theorem of_blank (blank : ∀ f ∈ files, f.locations = []) : AllOrNothing files dir d d (.ok none) := by
  have nowhere : ¬ ∃ f ∈ files, f.locations ≠ [] := by simpa using blank
  constructor
  · exact fun _ => ⟨rfl, rfl⟩
  · exact fun located => absurd located nowhere
  · exact fun all => absurd all.1 nowhere

theorem of_unshown (located : ∃ f ∈ files, f.locations ≠ []) (failed : Recorder.pages files = .error e) :
    AllOrNothing files dir d d (.error e) := by
  constructor
  · intro blank
    obtain ⟨f, member, located⟩ := located
    exact absurd (blank f member) located
  · intro _ front f back first split before fails
    have again := pages_eq_error_iff.mpr ⟨front, f, back, split, before, fails⟩
    exact ⟨congrArg _ (Except.error.inj (failed.symm.trans again)), rfl⟩
  · intro all
    obtain ⟨pages, shown⟩ := exists_pages_iff.mpr all.2
    cases failed.symm.trans shown

theorem of_shown (shown : AllShown files) (pages : ∀ f ∈ files, d'.HasFile (dir.child f.pageName))
    (index : d'.HasFile (dir.child indexFileName)) :
    AllOrNothing files dir d d' (.ok (some (.ofFiles files))) := by
  obtain ⟨located, each⟩ := shown
  constructor
  · intro blank
    obtain ⟨f, member, located⟩ := located
    exact absurd (blank f member) located
  · intro _ front f back first split before fails
    obtain ⟨html, page⟩ := each f (by simp [split])
    cases page.symm.trans fails
  · exact fun _ => ⟨rfl, pages, index⟩

end AllOrNothing

end Outcomes

section Recording

section Collected

variable (collected : (r.collect source modules).on w = (.ok files, v))

include collected

theorem record_on_of_blank (emptied : (recreate r.outputDir).on v = (.ok (), made))
    (blank : (CoverageSummary.ofFiles files).isEmpty = true) :
    ((r.record source modules).on w).1 = .ok none ∧ ((r.record source modules).on w).2.disk = made.disk := by
  simp only [Recorder.record, on_bind, collected, emptied, on_ofExcept, if_pos blank]
  exact ⟨rfl, rfl⟩

theorem record_on_of_unshown (emptied : (recreate r.outputDir).on v = (.ok (), made))
    (located : ¬ (CoverageSummary.ofFiles files).isEmpty = true)
    (unshown : Recorder.pages files = .error e) :
    (r.record source modules).on w = (.error e, made) := by
  simp only [Recorder.record, on_bind, collected, emptied, on_ofExcept, if_neg located, unshown]

theorem recorded_of_located {recorded : Option CoverageSummary}
    (located : ¬ (CoverageSummary.ofFiles files).isEmpty = true)
    (done : (r.record source modules).on w = (.ok recorded, w')) : recorded = some (.ofFiles files) := by
  obtain ⟨_, _, again, rest⟩ := bind_on_eq_ok_iff.mp done
  cases collected.symm.trans again
  obtain ⟨⟨⟩, v₁, -, rest⟩ := bind_on_eq_ok_iff.mp rest
  obtain ⟨pages, v₂, -, rest⟩ := bind_on_eq_ok_iff.mp rest
  rw [if_neg located] at rest
  obtain ⟨⟨⟩, v₃, -, rest⟩ := bind_on_eq_ok_iff.mp rest
  obtain ⟨paths, v₄, -, finished⟩ := bind_on_eq_ok_iff.mp rest
  cases finished
  rfl

/-- Once the directory is made anew, the recording fails with a page or with an error of the system. -/
theorem io_of_record_on_eq_error (emptied : (recreate r.outputDir).on v = (.ok (), made))
    (shown : Recorder.pages files = .ok pages)
    (failed : (r.record source modules).on w = (.error e, w')) : e.IsIo := by
  rcases r.record_fails failed with uncollected | ⟨_, _, again, failed⟩
  · cases collected.symm.trans uncollected
  · cases collected.symm.trans again
    rcases failed with unmade | ⟨_, -, ⟨unshown, -⟩ | ⟨_, _, -, -, unwritten⟩⟩
    · cases emptied.symm.trans unmade
    · cases shown.symm.trans unshown
    · exact writeFiles_failsOnly (fun reason => ⟨reason, rfl⟩) _ _ _ _ unwritten

/-- The three ways in which a recording goes on once the directory is made anew. -/
theorem record_cases (emptied : (recreate r.outputDir).on v = (.ok (), made))
    (ran : (r.record source modules).on w = (result, w')) :
    (∀ f ∈ files, f.locations = []) ∧ result = .ok none ∧ w'.disk = made.disk ∨
    (∃ f ∈ files, f.locations ≠ []) ∧ (∃ e, Recorder.pages files = .error e ∧ result = .error e) ∧
      w'.disk = made.disk ∨
    (∃ f ∈ files, f.locations ≠ []) ∧ (∃ pages, Recorder.pages files = .ok pages) ∧
      (result = .ok (some (.ofFiles files)) ∨ ∃ reason, result = .error (.io reason)) := by
  by_cases blank : (CoverageSummary.ofFiles files).isEmpty = true
  · obtain ⟨gives, leaves⟩ := record_on_of_blank collected emptied blank
    rw [ran] at gives leaves
    exact .inl ⟨isEmpty_ofFiles_iff.mp blank, gives, leaves⟩
  · have located : ∃ f ∈ files, f.locations ≠ [] := by
      simpa [isEmpty_ofFiles_iff] using blank
    cases shown : Recorder.pages files with
    | error e =>
        cases ran.symm.trans (record_on_of_unshown collected emptied blank shown)
        exact .inr (.inl ⟨located, ⟨e, rfl, rfl⟩, rfl⟩)
    | ok pages =>
        refine .inr (.inr ⟨located, ⟨pages, rfl⟩, ?_⟩)
        cases result with
        | error e => exact .inr ((io_of_record_on_eq_error collected emptied shown ran).imp fun _ => congrArg _)
        | ok recorded => exact .inl (congrArg _ (recorded_of_located collected blank ran))

end Collected

/-- Making a directory anew leaves an empty one exactly if it is named and emptied. -/
theorem isEmptyDirectory_iff (remade : Remade d d' dir) :
    IsEmptyDirectory d' dir ↔ dir.text ≠ "" ∧ Empties d dir [] := by
  have holds := (Refilled.empty remade).holdsOnly_iff (by simp) (by simp)
  constructor
  · intro empty
    obtain ⟨isDirectory, nothing⟩ := empty
    rw [remade.workDir] at nothing
    refine ⟨fun blank => not_isDirectory_of_blank blank isDirectory, holds.mp ?_⟩
    refine ⟨by simp, fun a inside e => ?_, by simp, fun a => find?_outside remade⟩
    simp [nothing a inside]
  · intro emptied
    obtain ⟨named, empties⟩ := emptied
    refine ⟨remade.isDirectory named, fun a inside => ?_⟩
    rw [remade.workDir] at inside
    refine Option.eq_none_iff_forall_ne_some.mpr fun e found => ?_
    obtain ⟨f, member, -⟩ := ((holds.mpr empties).inside a inside e).mp found
    exact List.not_mem_nil member

theorem hasFile_of_recorded {summary : CoverageSummary}
    (collected : (r.collect source modules).on w = (.ok files, v))
    (done : (r.record source modules).on w = (.ok (some summary), w')) :
    (∀ f ∈ files, w'.disk.HasFile (r.outputDir.child f.pageName)) ∧
      w'.disk.HasFile (r.outputDir.child indexFileName) := by
  obtain ⟨_, _, written, again, refilled, listed, -⟩ := record_on_eq_ok done
  cases collected.symm.trans again
  obtain ⟨-, pages, shown, rfl⟩ := listed summary rfl
  refine ⟨(forall_pages_iff shown fun name _ => w'.disk.HasFile (r.outputDir.child name)).mpr ?_, ?_⟩
  · exact fun p member => refilled.hasFile (List.mem_append_left _ member)
  · have listed : (indexFileName, summary.index) ∈ pages ++ [(indexFileName, summary.index)] :=
      List.mem_append_right _ (List.mem_singleton_self _)
    have there := refilled.hasFile listed
    exact there

/-- The files come in the order of their modules, and no page is written unless all can be shown.  Where the
system gives no error, the recording tells of no location, or of the first page that cannot be shown, and
leaves the directory as it was made anew, or it gives the summary and has written all pages.  A directory
that is left so is empty exactly if making it anew emptied it, which it does in a tree for every path
without `..` that is not empty. -/
theorem record_allOrNothing (collected : (r.collect source modules).on w = (.ok files, v))
    (ran : (r.record source modules).on w = (result, w')) :
    files.map (fun f => (f.moduleName, f.file)) = r.files modules ∧
    ((∀ f ∈ files, ∃ html, f.page = .ok html) ∨ w'.disk = ((recreate r.outputDir).on v).2.disk) ∧
    ((∀ reason, result ≠ .error (.io reason)) →
      AllOrNothing files r.outputDir ((recreate r.outputDir).on v).2.disk w'.disk result ∧
      (¬ AllShown files →
        (IsEmptyDirectory w'.disk r.outputDir ↔ r.outputDir.text ≠ "" ∧ Empties v.disk r.outputDir []) ∧
        (v.disk.IsTree → r.outputDir.Plain → r.outputDir.text ≠ "" →
          IsEmptyDirectory w'.disk r.outputDir))) := by
  refine ⟨collect_on_eq_ok collected, ?_⟩
  rcases emptied : (recreate r.outputDir).on v with ⟨⟨e⟩ | ⟨⟨⟩⟩, made⟩
  · have failed : (r.record source modules).on w = (.error e, made) := by
      simp only [Recorder.record, on_bind, collected, emptied]
    cases ran.symm.trans failed
    obtain ⟨reason, rfl⟩ : e.IsIo := recreate_failsOnly (fun reason => ⟨reason, rfl⟩) _ _ _ _ emptied
    exact ⟨.inr rfl, fun succeeds => absurd rfl (succeeds reason)⟩
  · have emptyIff := isEmptyDirectory_iff (recreate_on_eq_ok emptied)
    have refilled := Refilled.empty (recreate_on_eq_ok emptied)
    have emptyOfPlain : v.disk.IsTree → r.outputDir.Plain → r.outputDir.text ≠ "" →
        IsEmptyDirectory made.disk r.outputDir := fun tree plain named =>
      emptyIff.mpr ⟨named, refilled.empties_of_plain tree plain named⟩
    rcases record_cases collected emptied ran with
      ⟨blank, rfl, same⟩ | ⟨located, ⟨e, failed, rfl⟩, same⟩ | ⟨located, shown, ended⟩
    · rw [same]
      exact ⟨.inr rfl, fun _ => ⟨.of_blank blank, fun _ => ⟨emptyIff, emptyOfPlain⟩⟩⟩
    · rw [same]
      exact ⟨.inr rfl, fun _ => ⟨.of_unshown located failed, fun _ => ⟨emptyIff, emptyOfPlain⟩⟩⟩
    · have each := exists_pages_iff.mp shown
      refine ⟨.inl each, fun succeeds => ?_⟩
      rcases ended with rfl | ⟨reason, rfl⟩
      · obtain ⟨pages, index⟩ := hasFile_of_recorded collected ran
        exact ⟨.of_shown ⟨located, each⟩ pages index, fun missing => absurd ⟨located, each⟩ missing⟩
      · exact absurd rfl (succeeds reason)

end Recording

section Samples

theorem overlap_allOrNothing :
    ∃ w', (nameRecorder.record overlapSource queueModules).on { disk := staleDisk } =
        (.error (.overlappingLocations ⟨"queue"⟩ (.ofNumbers 1 2 1 3) ⟨1, 5⟩), w') ∧
      w'.disk = ((recreate ⟨"coverage"⟩).on { disk := staleDisk }).2.disk ∧
      IsEmptyDirectory w'.disk ⟨"coverage"⟩ := by
  have collected : (nameRecorder.collect overlapSource queueModules).on { disk := staleDisk } =
      (.ok [(FileCoverage.blank ⟨"queue"⟩ "Queue" "queue").withHits overlapHits],
        { disk := staleDisk }) := rfl
  have fails : ((nameRecorder.record overlapSource queueModules).on { disk := staleDisk }).1 =
      .error (.overlappingLocations ⟨"queue"⟩ (.ofNumbers 1 2 1 3) ⟨1, 5⟩) := by decide +kernel
  obtain ⟨-, -, ends⟩ := record_allOrNothing collected (on_of_fst_error fails)
  obtain ⟨outcome, leaves⟩ := ends (by simp)
  have unshown : FileCoverage.page ((FileCoverage.blank ⟨"queue"⟩ "Queue" "queue").withHits overlapHits) =
      .error (.overlappingLocations ⟨"queue"⟩ (.ofNumbers 1 2 1 3) ⟨1, 5⟩) := by decide +kernel
  refine ⟨_, on_of_fst_error fails, ?_, ?_⟩
  · refine (outcome.unshown ?_ [] _ [] _ rfl (by simp) unshown).2
    exact ⟨_, List.mem_singleton_self _, by decide⟩
  · refine (leaves fun all => ?_).2 (isTree_of_entries (by decide)) (by decide) (by decide)
    obtain ⟨html, page⟩ := all.2 _ (List.mem_singleton_self _)
    cases unshown.symm.trans page

def blankSource : Source (StateM World) where
  text file := pure file.text
  hits _ := pure []

/-- A page of an earlier run stays where the path of the directory leads through one that is missing. -/
theorem record_not_empty :
    ¬ ∀ (r : Recorder) (source : Source (StateM World)) (modules : List ModuleInfo) (w v w' : World)
        (files : List FileCoverage) (result : Except Failure (Option CoverageSummary)),
      source.KeepsDisk → w.disk.IsTree → r.outputDir.text ≠ "" →
      (r.collect source modules).on w = (.ok files, v) → (r.record source modules).on w = (result, w') →
      (∀ reason, result ≠ .error (.io reason)) → ¬ AllShown files →
      IsEmptyDirectory w'.disk r.outputDir := by
  intro empties
  have collected : (Recorder.collect ⟨none, ⟨"build/../coverage"⟩⟩ blankSource queueModules).on
      { disk := staleDisk } = (.ok [FileCoverage.blank ⟨"queue"⟩ "Queue" "queue"],
        { disk := staleDisk }) := rfl
  have gives : ((Recorder.record ⟨none, ⟨"build/../coverage"⟩⟩ blankSource queueModules).on
      { disk := staleDisk }).1 = .ok none := by decide +kernel
  have nowhere : ¬ AllShown [FileCoverage.blank ⟨"queue"⟩ "Queue" "queue"] := by
    intro all
    obtain ⟨f, member, located⟩ := all.1
    obtain rfl := List.mem_singleton.mp member
    exact located rfl
  obtain ⟨-, nothing⟩ := empties _ _ _ _ _ _ _ _ ⟨fun _ => .pure _, fun _ => .pure _⟩
    (isTree_of_entries (by decide)) (by decide) collected (on_of_fst gives) (by simp) nowhere
  have still : ((Recorder.record ⟨none, ⟨"build/../coverage"⟩⟩ blankSource queueModules).on
      { disk := staleDisk }).2.disk.find? ["work", "coverage", "Stack.html"] = some (.file "old") := by
    decide +kernel
  rw [nothing _ (by decide +kernel)] at still
  cases still

end Samples

end SpecTest.Coverage
