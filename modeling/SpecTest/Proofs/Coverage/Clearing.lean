import SpecTest.Proofs.Report.Confinement
import SpecTest.Proofs.Report.Failures
import SpecTest.Proofs.Report.Sparing

/-!
What recording leaves of the files that were in its directory before.

The directory is made anew once the coverage is collected.  A text or a count that cannot be had ends the
recording before that.
-/

namespace SpecTest.Coverage

open SpecTest.Data SpecTest.Disk SpecTest.Report SpecTest.Task

variable {w w' v : World} {d d' : Disk} {dir : Path} {a : Address} {written : List (String × String)}
  {r : Recorder} {source : Source (StateM World)} {modules : List ModuleInfo}
  {found : Except Failure (List FileCoverage)} {result : Except Failure (Option CoverageSummary)}

/-- Is at the address a file in the directory that is none of those that were written there? -/
def Leftover (workDir : Address) (d : Disk) (dir : Path) (written : List (String × String))
    (a : Address) : Prop :=
  isInside a (dir.address workDir) = true ∧ Avoids workDir dir written a ∧
    ∃ text, d.find? a = some (.file text)

section Refilling

theorem leftover_refilled_iff (refilled : Refilled d d' dir written) :
    Leftover d.workDir d' dir written a ↔
      Leftover d.workDir d dir written a ∧ ¬ Clears d.workDir d.IsDir dir a := by
  constructor
  · intro left
    obtain ⟨inside, avoids, text, there⟩ := left
    obtain ⟨before, notCleared⟩ := (file_refilled_iff refilled avoids).mp there
    exact ⟨⟨inside, avoids, text, before⟩, notCleared⟩
  · intro kept
    obtain ⟨⟨inside, avoids, text, before⟩, notCleared⟩ := kept
    exact ⟨inside, avoids, text, (file_refilled_iff refilled avoids).mpr ⟨before, notCleared⟩⟩

theorem not_leftover_of_plain (refilled : Refilled d d' dir written) (tree : d.IsTree) (plain : dir.Plain)
    (named : dir.text ≠ "") : ¬ Leftover d.workDir d' dir written a := by
  intro left
  obtain ⟨inside, avoids, text, there⟩ := left
  obtain ⟨f, member, here⟩ := mem_of_file_inside tree refilled plain named inside there
  exact avoids f member here

end Refilling

section Recording

/-- Writing that fails has written the first ones of the files. -/
theorem writeFiles_on_eq_error {files : List (String × String)} {e : Failure}
    (failed : (writeFiles dir files).on w = (.error e, w')) :
    ∃ written, written <+: files ∧ w.disk.writeAll (placed dir written) = .ok w'.disk := by
  induction files generalizing w with
  | nil => cases failed
  | cons file files ih =>
      obtain ⟨name, text⟩ := file
      rcases bind_on_eq_error_iff.mp failed with unwritten | ⟨⟨⟩, v, first, failed⟩
      · exact ⟨[], List.nil_prefix, congrArg Except.ok (onDisk?_on_eq_error unwritten).symm⟩
      · rcases bind_on_eq_error_iff.mp failed with later | ⟨others, v', -, impossible⟩
        · obtain ⟨written, front, rest⟩ := ih later
          exact ⟨(name, text) :: written, List.cons_prefix_cons.mpr ⟨rfl, front⟩,
            writeAll_cons_eq_ok_iff.mpr ⟨v.disk, writeText_on_eq_ok first, rest⟩⟩
        · cases impossible

theorem record_on_of_uncollected {e : Failure}
    (failed : (r.collect source modules).on w = (.error e, v)) :
    (r.record source modules).on w = (.error e, v) := by
  rw [Recorder.record, on_bind, failed]

/-- Once the coverage is collected, the directory is made anew and the first ones of the pages are written,
however the recording ends. -/
theorem record_refilled {files : List FileCoverage}
    (collected : (r.collect source modules).on w = (.ok files, v))
    (made : ((recreate r.outputDir).on v).1 = .ok ())
    (ran : (r.record source modules).on w = (result, w')) :
    ∃ written, Refilled v.disk w'.disk r.outputDir written ∧
      written.map (·.1) <+: pageNames r modules := by
  cases result with
  | error e =>
      rcases r.record_fails ran with uncollected | ⟨_, _, again, failed⟩
      · rw [collected] at uncollected
        cases uncollected
      rw [collected] at again
      cases again
      rcases failed with unmade | ⟨_, emptied, ⟨-, rfl⟩ | ⟨pages, logged, shown, same, unwritten⟩⟩
      · rw [on_of_fst made] at unmade
        cases unmade
      · exact ⟨[], .empty (recreate_on_eq_ok emptied), List.nil_prefix⟩
      · obtain ⟨written, front, inOrder⟩ := writeFiles_on_eq_error unwritten
        rw [same] at inOrder
        refine ⟨written, ⟨_, recreate_on_eq_ok emptied, inOrder⟩, ?_⟩
        rw [← pages_names collected shown]
        exact front.map _
  | ok recorded =>
      obtain ⟨_, _, written, again, refilled, listed, blank, -⟩ := record_on_eq_ok ran
      rw [collected] at again
      cases again
      refine ⟨written, refilled, ?_⟩
      cases recorded with
      | none =>
          rw [blank rfl]
          exact List.nil_prefix
      | some summary =>
          obtain ⟨-, pages, shown, rfl⟩ := listed summary rfl
          exact ⟨[], by rw [List.append_nil, pages_names collected shown]⟩

/-- In a tree, the files of before are gone from the directory exactly where the coverage is collected.
Elsewhere the recording fails with that and clears nothing. -/
theorem record_leftover_iff (collected : (r.collect source modules).on w = (found, v))
    (made : found.isOk = true → ((recreate r.outputDir).on v).1 = .ok ())
    (ran : (r.record source modules).on w = (result, w')) :
    (source.KeepsDisk → v.disk = w.disk) ∧
    ∃ written, written.map (·.1) <+: pageNames r modules ∧
      (found.isOk = true → Refilled v.disk w'.disk r.outputDir written) ∧
      (∀ e, found = .error e → result = .error e ∧ w' = v ∧ written = []) ∧
      (∀ a, Leftover v.disk.workDir w'.disk r.outputDir written a ↔
        Leftover v.disk.workDir v.disk r.outputDir written a ∧
          ¬ (found.isOk = true ∧ Clears v.disk.workDir v.disk.IsDir r.outputDir a)) ∧
      (v.disk.IsTree → r.outputDir.Plain → r.outputDir.text ≠ "" →
        ∀ a, Leftover v.disk.workDir w'.disk r.outputDir written a ↔
          Leftover v.disk.workDir v.disk r.outputDir written a ∧ found.isOk = false) := by
  refine ⟨fun keeps => (collect_keepsDisk keeps).disk_eq collected, ?_⟩
  cases found with
  | error e =>
      obtain ⟨rfl, rfl⟩ := Prod.mk.inj ((record_on_of_uncollected collected).symm.trans ran)
      refine ⟨[], List.nil_prefix, ?_, ?_, ?_, ?_⟩
      · intro impossible
        cases impossible
      · intro reason same
        exact ⟨congrArg _ (Except.error.inj same), rfl, rfl⟩
      · simp [Except.isOk, Except.toBool]
      · simp [Except.isOk, Except.toBool]
  | ok files =>
      obtain ⟨written, refilled, front⟩ := record_refilled collected (made rfl) ran
      refine ⟨written, front, fun _ => refilled, ?_, fun a => ?_, ?_⟩
      · intro e impossible
        cases impossible
      · rw [leftover_refilled_iff refilled]
        simp [Except.isOk, Except.toBool]
      · intro tree plain named a
        simp [not_leftover_of_plain refilled tree plain named, Except.isOk, Except.toBool]

end Recording

section Samples

def staleDisk : Disk where
  entries := [(["work"], .directory), (["work", "coverage"], .directory),
    (["work", "coverage", "Stack.html"], .file "old")]
  workDir := ["work"]

def queueModules : List ModuleInfo := [⟨"Queue", [⟨"queue"⟩], []⟩]

/-- The second location starts before the end of the first. -/
def overlapHits : List Hit := [⟨.ofNumbers 1 1 1 5, 1⟩, ⟨.ofNumbers 1 2 1 3, 1⟩]

def overlapSource : Source (StateM World) where
  text file := pure file.text
  hits _ := pure overlapHits

def missingSource : Source (StateM World) where
  text _ := throw (.io .notFound)
  hits _ := pure []

theorem overlap_clears :
    ∃ files w', (nameRecorder.collect overlapSource queueModules).on { disk := staleDisk } =
        (.ok files, { disk := staleDisk }) ∧
      ((recreate ⟨"coverage"⟩).on { disk := staleDisk }).1 = .ok () ∧
      (nameRecorder.record overlapSource queueModules).on { disk := staleDisk } =
        (.error (.overlappingLocations ⟨"queue"⟩ (.ofNumbers 1 2 1 3) ⟨1, 5⟩), w') ∧
      ∃ written, written.map (·.1) <+: ["Queue.html", "report.html"] ∧
        Refilled staleDisk w'.disk ⟨"coverage"⟩ written ∧
        ∀ a, ¬ Leftover ["work"] w'.disk ⟨"coverage"⟩ written a := by
  have collected : (nameRecorder.collect overlapSource queueModules).on { disk := staleDisk } =
      (.ok [(FileCoverage.blank ⟨"queue"⟩ "Queue" "queue").withHits overlapHits],
        { disk := staleDisk }) := rfl
  have made : ((recreate ⟨"coverage"⟩).on { disk := staleDisk }).1 = .ok () := by decide +kernel
  have fails : ((nameRecorder.record overlapSource queueModules).on { disk := staleDisk }).1 =
      .error (.overlappingLocations ⟨"queue"⟩ (.ofNumbers 1 2 1 3) ⟨1, 5⟩) := by decide +kernel
  obtain ⟨-, written, front, refilled, -, -, leftover⟩ :=
    record_leftover_iff collected (fun _ => made) (on_of_fst_error fails)
  refine ⟨_, _, collected, made, on_of_fst_error fails, written, front, refilled rfl, fun a left => ?_⟩
  have tree : staleDisk.IsTree := isTree_of_entries (by decide)
  obtain ⟨-, impossible⟩ := (leftover tree (by decide) (by decide) a).mp left
  cases impossible

theorem record_leaves_stale :
    ¬ ∀ (r : Recorder) (source : Source (StateM World)) (modules : List ModuleInfo) (w : World),
      source.KeepsDisk → w.disk.IsTree → r.outputDir.Plain → ((recreate r.outputDir).on w).1 = .ok () →
      ∀ a text, isInside a (r.outputDir.address w.disk.workDir) = true →
        (∀ name ∈ pageNames r modules, (r.outputDir.child name).address w.disk.workDir ≠ a) →
        ((r.record source modules).on w).2.disk.find? a ≠ some (.file text) := by
  intro cleared
  exact cleared nameRecorder missingSource queueModules { disk := staleDisk }
    ⟨fun _ => .throw _, fun _ => .pure _⟩ (isTree_of_entries (by decide)) (by decide)
    (by decide +kernel) ["work", "coverage", "Stack.html"] "old" (by decide) (by decide) (by decide +kernel)

end Samples

end SpecTest.Coverage
