import SpecTest.Coverage.Recorder
import SpecTest.Proofs.Path.Place

/-!
The source directories of tests and of coverage, and which files of the modules that they admit lie under them.

A module is admitted where the parts of each of its files start with those of the directory.  Its `..` are
parts like others, so a file may be admitted and lead out of the directory again.
-/

namespace SpecTest

open SpecTest.Coverage

/-- Does the directory admit the module, as the source directory of tests or of coverage? -/
def ModuleInfo.Admitted (m : ModuleInfo) (root : Path) : Prop :=
  (∃ s : Selector, (s.withSourceDir root).isTestModule m = true) ∨
    ∃ r : Recorder, (r.withSourceDir root).includes m = true

variable {m : ModuleInfo} {root : Path}

theorem ModuleInfo.admitted_iff : m.Admitted root ↔ ∀ file ∈ m.files, root.normalize.parts <+: file.parts := by
  have under : m.liesUnder (some root.normalize) = true ↔
      ∀ file ∈ m.files, root.normalize.parts <+: file.parts := by
    simp only [liesUnder, Path.startsWith, List.all_eq_true, List.isPrefixOf_iff_prefix]
  constructor
  · rintro (⟨s, admitted⟩ | ⟨r, admitted⟩)
    · exact under.mp (Bool.and_eq_true_iff.mp admitted).2
    · exact under.mp admitted
  · intro starts
    exact .inr ⟨⟨none, root⟩, under.mpr starts⟩

/-- Each file of an admitted module has the parts of the directory in front.  It lies under the directory, in
whatever working directory the two are seen, exactly where the rest of it comes back through the names of
the directory that it leaves; so it does where there is no `..` in the rest. -/
theorem admitted_liesUnder_iff (admitted : m.Admitted root) (rootRelative : root.isAbsolute = false)
    (relative : ∀ file ∈ m.files, file.isAbsolute = false) :
    ∀ file ∈ m.files, ∃ rest, file.parts = root.normalize.parts ++ rest ∧
      (file.LiesUnder root ↔ (Path.Place.here.follow rest).ReturnsInto root.place.down) ∧
      (file.LiesUnder root ↔ ∀ workDir, root.address workDir <+: file.address workDir) ∧
      (.up ∉ rest → file.LiesUnder root) := by
  intro file listed
  obtain ⟨rest, split⟩ := ModuleInfo.admitted_iff.mp admitted file listed
  have parts : file.parts = root.counted ++ rest := by
    rw [← split, Path.parts_normalize_of_relative rootRelative]
  obtain ⟨returns, everywhere⟩ := Path.liesUnder_iff (relative file listed) rootRelative parts
  exact ⟨rest, split.symm, returns, everywhere,
    Path.liesUnder_of_not_up (relative file listed) rootRelative parts⟩

section Samples

/-- The first file lies below `src/test`, the second leaves this directory and comes back. -/
def returningModule : ModuleInfo where
  name := "TestStack"
  files := [⟨"src/test/vdm/TestStack.vdmsl"⟩, ⟨"src/test/../test/TestQueue.vdmsl"⟩]

theorem returningModule_liesUnder :
    returningModule.Admitted ⟨"src/test"⟩ ∧ (⟨"src/test"⟩ : Path).isAbsolute = false ∧
    (∀ file ∈ returningModule.files, file.isAbsolute = false) ∧
    ∀ file ∈ returningModule.files, ∃ rest, file.parts = (⟨"src/test"⟩ : Path).normalize.parts ++ rest ∧
      (file.LiesUnder ⟨"src/test"⟩ ↔
        (Path.Place.here.follow rest).ReturnsInto (⟨"src/test"⟩ : Path).place.down) ∧
      (file.LiesUnder ⟨"src/test"⟩ ↔
        ∀ workDir, (⟨"src/test"⟩ : Path).address workDir <+: file.address workDir) ∧
      (.up ∉ rest → file.LiesUnder ⟨"src/test"⟩) := by
  have admitted : returningModule.Admitted ⟨"src/test"⟩ := .inl ⟨{}, by decide +kernel⟩
  have rootRelative : (⟨"src/test"⟩ : Path).isAbsolute = false := by decide +kernel
  have relative : ∀ file ∈ returningModule.files, file.isAbsolute = false := by decide +kernel
  exact ⟨admitted, rootRelative, relative, admitted_liesUnder_iff admitted rootRelative relative⟩

/-- A file of a module with tests is in the directory beside that of the tests. -/
def leavingModule : ModuleInfo where
  name := "TestStack"
  files := [⟨"src/test/../main/TestStack.vdmsl"⟩]

/-- A file that leaves the source directory of tests is admitted with the parts of that directory in front. -/
theorem admitted_not_liesUnder :
    ¬ ∀ (root : Path) (m : ModuleInfo), root.isAbsolute = false →
      (∀ file ∈ m.files, file.isAbsolute = false) → m.Admitted root →
      ∀ file ∈ m.files, file.LiesUnder root := by
  intro allUnder
  have under := allUnder ⟨"src/test"⟩ leavingModule (by decide +kernel) (by decide +kernel)
    (.inl ⟨{}, by decide +kernel⟩) _ (List.mem_singleton_self _)
  exact absurd under (by decide +kernel)

end Samples

end SpecTest
