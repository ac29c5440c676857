import SpecTest.Coverage.Recorder
import SpecTest.Proofs.Data.Success
import SpecTest.Proofs.Host.Failing
import SpecTest.Proofs.Report.Directories
import SpecTest.Settings

/-!
How reports fail: only with errors of the system, with times that do not add up, and with locations that do
not fit the text.
-/

namespace SpecTest

open SpecTest.Coverage SpecTest.Data SpecTest.Disk SpecTest.Report SpecTest.Task

/-- Does the failure end the program with the status of system errors and unfit locations, or with that of a
program that stops at once? -/
def Failure.IsFatal (f : Failure) : Prop := f.exitStatus = 6 ∨ f.exitStatus = 101

def Failure.IsIo (f : Failure) : Prop := ∃ reason, f = .io reason

/-- Does the failure tell of a location that does not fit the text, or the locations before it? -/
def Failure.IsUnfit : Failure → Prop
  | .overlappingLocations .. | .locationOutOfRange .. => True
  | _ => False

theorem Failure.IsUnfit.isFatal {f : Failure} (unfit : f.IsUnfit) : f.IsFatal := by
  cases f with
  | overlappingLocations => exact .inl rfl
  | locationOutOfRange => exact .inl rfl
  | _ => exact unfit.elim

namespace Report

variable {kind : Failure → Prop} (io : ∀ reason, kind (.io reason)) {dir : Path} {hostname : String}
include io

theorem recreate_failsOnly (dir : Path) : FailsOnly kind (recreate dir : Task (StateM World) Unit) := by
  refine (FailsOnly.liftM _).bind fun there => ?_
  split
  · exact (FailsOnly.ofHost io).bind fun _ => .ofHost io
  · exact .ofHost io

theorem writeFiles_failsOnly (files : List (String × String)) :
    FailsOnly kind (writeFiles dir files : Task (StateM World) (List Path)) := by
  induction files with
  | nil => exact .pure _
  | cons file files ih => exact (FailsOnly.ofHost io).bind fun _ => ih.bind fun _ => .pure _

omit io in
theorem junit_eq_error {s : SuiteResult} {e : Failure} (failed : junit s hostname = .error e) :
    e = .timeOverflow := by
  unfold junit at failed
  split at failed
  · cases failed
  · cases failed
    rfl

/-- Documents that are not all written stop at a suite that has none. -/
theorem writeJunitFrom_on_eq_error {results : List SuiteResult} {e : Failure} {w w' : World}
    (failed : (writeJunitFrom dir hostname results).on w = (.error e, w')) :
    kind e ∨ (∃ s ∈ results, junit s hostname = .error e) ∧ ∃ front files, front <+: results ∧
      junitFiles hostname front = .ok files ∧ w.disk.writeAll (placed dir files) = .ok w'.disk := by
  induction results generalizing w with
  | nil => cases failed
  | cons s results ih =>
      rcases bind_on_eq_error_iff.mp failed with unmade | ⟨document, v₀, made, failed⟩
      · obtain ⟨hasNone, rfl⟩ := Prod.mk.inj ((on_ofExcept _ _).symm.trans unmade)
        exact .inr ⟨⟨s, List.mem_cons_self, hasNone⟩, [], [], List.nil_prefix, rfl, rfl⟩
      obtain ⟨has, rfl⟩ := Prod.mk.inj ((on_ofExcept _ _).symm.trans made)
      rcases bind_on_eq_error_iff.mp failed with unwritten | ⟨⟨⟩, v, written, failed⟩
      · exact .inl (FailsOnly.ofHost io _ _ _ unwritten)
      rcases bind_on_eq_error_iff.mp failed with unlogged | ⟨⟨⟩, v', logged, failed⟩
      · cases unlogged
      cases logged
      rcases bind_on_eq_error_iff.mp failed with later | ⟨paths, _, -, impossible⟩
      · refine (ih later).imp_right fun ⟨⟨other, member, hasNone⟩, front, files, first, documents, inOrder⟩ =>
          ⟨⟨other, List.mem_cons_of_mem s member, hasNone⟩, s :: front,
            (junitFileName s.moduleName, document) :: files, ?_, ?_, ?_⟩
        · exact List.cons_prefix_cons.mpr ⟨rfl, first⟩
        · rw [junitFiles_eq_ok_iff, List.map_cons, List.map_cons, junitFiles_eq_ok_iff.mp documents, has]
        · exact writeAll_cons_eq_ok_iff.mpr ⟨v.disk, writeText_on_eq_ok written, inOrder⟩
      · cases impossible

theorem writeJunit_on_eq_error {dir : Path} {results : List SuiteResult} {e : Failure} {w w' : World}
    (failed : (writeJunit dir results hostname).on w = (.error e, w')) :
    kind e ∨ (∃ s ∈ results, junit s hostname = .error e) ∧ ∃ front files, front <+: results ∧
      junitFiles hostname front = .ok files ∧ Refilled w.disk w'.disk dir files := by
  rcases bind_on_eq_error_iff.mp failed with unmade | ⟨⟨⟩, v, remade, failed⟩
  · exact .inl (recreate_failsOnly io _ _ _ _ unmade)
  · exact (writeJunitFrom_on_eq_error io failed).imp_right fun ⟨hasNone, front, files, first, made, inOrder⟩ =>
      ⟨hasNone, front, files, first, made, v.disk, recreate_on_eq_ok remade, inOrder⟩

end Report

namespace Coverage

theorem marksFrom_unfit {file : Path} {text : List Char} {lines : Lines} {cursor : Position} {done : Nat}
    {hits : List Hit} {e : Failure} (failed : marksFrom file text lines cursor done hits = .error e) :
    e.IsUnfit := by
  induction hits generalizing cursor done with
  | nil => cases failed
  | cons h rest ih =>
      simp only [marksFrom] at failed
      split at failed
      · cases failed
        exact trivial
      · split at failed
        · split at failed
          · rcases bind_eq_error_iff.mp failed with later | ⟨pieces, -, impossible⟩
            · exact ih later
            · cases impossible
          · cases failed
            exact trivial
        · cases failed
          exact trivial

theorem FileCoverage.page_unfit {c : FileCoverage} {e : Failure} (failed : c.page = .error e) :
    e.IsUnfit := by
  rcases bind_eq_error_iff.mp failed with cut | ⟨pieces, -, impossible⟩
  · exact marksFrom_unfit cut
  · cases impossible

theorem Recorder.pages_unfit {files : List FileCoverage} {e : Failure}
    (failed : Recorder.pages files = .error e) : e.IsUnfit := by
  obtain ⟨_, file, _, -, -, unshown⟩ := mapM_eq_error_iff.mp failed
  rcases bind_eq_error_iff.mp unshown with page | ⟨html, -, impossible⟩
  · exact FileCoverage.page_unfit page
  · cases impossible

section Recording

variable {kind : Failure → Prop} {source : Source (StateM World)} {w w' : World} {e : Failure}

theorem Recorder.collect_failsOnly (r : Recorder) (modules : List ModuleInfo)
    (texts : ∀ file, (source.text file).FailsOnly kind)
    (hits : ∀ file, (source.hits file).FailsOnly kind) :
    (r.collect source modules).FailsOnly kind :=
  .mapM fun _ => (texts _).bind fun _ => (hits _).bind fun _ => .pure _

/-- Where recording can fail: at the coverage, at the directory, at a page, and at a file. -/
theorem Recorder.record_fails {r : Recorder} {modules : List ModuleInfo}
    (failed : (r.record source modules).on w = (.error e, w')) :
    (r.collect source modules).on w = (.error e, w') ∨
    ∃ files v, (r.collect source modules).on w = (.ok files, v) ∧
      ((recreate r.outputDir).on v = (.error e, w') ∨
      ∃ made, (recreate r.outputDir).on v = (.ok (), made) ∧
        (Recorder.pages files = .error e ∧ w' = made ∨
        ∃ pages logged, Recorder.pages files = .ok pages ∧ logged.disk = made.disk ∧
          (writeFiles r.outputDir (pages ++ [(indexFileName, (CoverageSummary.ofFiles files).index)])).on
            logged = (.error e, w'))) := by
  refine (bind_on_eq_error_iff.mp failed).imp_right ?_
  intro ⟨files, v, collected, failed⟩
  refine ⟨files, v, collected, (bind_on_eq_error_iff.mp failed).imp_right ?_⟩
  intro ⟨⟨⟩, made, emptied, failed⟩
  refine ⟨made, emptied, ?_⟩
  rcases bind_on_eq_error_iff.mp failed with unshown | ⟨pages, v₁, shown, failed⟩
  · obtain ⟨gives, rfl⟩ := Prod.mk.inj ((on_ofExcept _ _).symm.trans unshown)
    split at gives
    · cases gives
    · exact .inl ⟨gives, rfl⟩
  · obtain ⟨gives, rfl⟩ := Prod.mk.inj ((on_ofExcept _ _).symm.trans shown)
    split at failed
    · cases failed
    · rename_i notEmpty
      rw [if_neg notEmpty] at gives
      rcases bind_on_eq_error_iff.mp failed with unlogged | ⟨⟨⟩, logged, done, failed⟩
      · cases unlogged
      cases done
      rcases bind_on_eq_error_iff.mp failed with unwritten | ⟨paths, _, -, impossible⟩
      · refine .inr ⟨pages, _, gives, ?_, unwritten⟩
        rfl
      · cases impossible

/-- Recording that fails with a location makes its directory anew before that. -/
theorem Recorder.record_on_eq_error (io : ∀ reason, kind (.io reason)) {r : Recorder}
    {modules : List ModuleInfo} (texts : ∀ file, (source.text file).FailsOnly kind)
    (hits : ∀ file, (source.hits file).FailsOnly kind)
    (failed : (r.record source modules).on w = (.error e, w')) :
    kind e ∨ e.IsUnfit ∧ ∃ files v, (r.collect source modules).on w = (.ok files, v) ∧
      Remade v.disk w'.disk r.outputDir := by
  rcases r.record_fails failed with uncollected | ⟨files, v, collected, failed⟩
  · exact .inl (r.collect_failsOnly modules texts hits _ _ _ uncollected)
  rcases failed with unmade | ⟨made, emptied, failed⟩
  · exact .inl (recreate_failsOnly io _ _ _ _ unmade)
  rcases failed with ⟨unshown, rfl⟩ | ⟨pages, logged, -, -, unwritten⟩
  · exact .inr ⟨Recorder.pages_unfit unshown, files, v, collected, recreate_on_eq_ok emptied⟩
  · exact .inl (writeFiles_failsOnly io _ _ _ _ unwritten)

end Recording

end Coverage

end SpecTest
