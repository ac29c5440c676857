import SpecTest.Proofs.Markup.References
import SpecTest.Proofs.Path.Spelling
import SpecTest.Proofs.Report.Confinement
import SpecTest.Proofs.Report.Contents

/-!
Which launch descriptors a directory holds right after they were written.

A descriptor tells of one test only.  Its file is named after the module and the test, with a backtick
between them, so that two tests share a file where a backtick in their names can be taken for that one.
-/

namespace SpecTest.Report

open SpecTest.Disk SpecTest.Markup SpecTest.Task SpecTest.Text

variable {w w' : World} {d d' : Disk} {dir : Path} {files : List (String × String)} {paths : List Path}
  {workDir : Address} {name : String}

section Names

variable {moduleName testName otherModule otherTest : String}

theorem toList_launchFileName (moduleName testName : String) : (launchFileName moduleName testName).toList =
    moduleName.toList ++ '\x60' :: (testName ++ ".launch").toList := by
  simp [launchFileName]

theorem launchFileName_inj_of_modules (plain : '\x60' ∉ moduleName.toList)
    (otherPlain : '\x60' ∉ otherModule.toList) :
    launchFileName moduleName testName = launchFileName otherModule otherTest ↔
      moduleName = otherModule ∧ testName = otherTest := by
  rw [← String.toList_inj, toList_launchFileName, toList_launchFileName, append_sep_inj plain otherPlain,
    String.toList_inj, String.toList_inj, String.append_left_inj]

theorem launchFileName_inj_of_tests (plain : '\x60' ∉ testName.toList)
    (otherPlain : '\x60' ∉ otherTest.toList) :
    launchFileName moduleName testName = launchFileName otherModule otherTest ↔
      moduleName = otherModule ∧ testName = otherTest := by
  have behind {test : String} (free : '\x60' ∉ test.toList) : '\x60' ∉ (test ++ ".launch").toList := by
    rw [String.toList_append, List.mem_append, not_or]
    exact ⟨free, by decide⟩
  rw [← String.toList_inj, toList_launchFileName, toList_launchFileName,
    append_sep_inj_of_last (behind plain) (behind otherPlain), String.toList_inj, String.toList_inj,
    String.append_left_inj]

theorem not_slash_launchFileName (noSlash : '/' ∉ moduleName.toList) (otherNoSlash : '/' ∉ testName.toList) :
    '/' ∉ (launchFileName moduleName testName).toList := by
  have ending : '/' ∉ ".launch".toList := by decide
  rw [toList_launchFileName, String.toList_append, List.mem_append, List.mem_cons, List.mem_append, not_or,
    not_or, not_or]
  exact ⟨noSlash, by decide, otherNoSlash, ending⟩

end Names

section Texts

theorem stringSetting_append_inj {key value other rest more : String} :
    stringSetting key value ++ rest = stringSetting key other ++ more ↔ value = other ∧ rest = more := by
  have shape (s behind : String) : stringSetting key s ++ behind =
      ("  <stringAttribute" ++ attr "key" key) ++ (attr "value" s ++ ("/>\n" ++ behind)) := by
    unfold stringSetting
    rw [String.append_assoc, String.append_assoc]
  rw [shape, shape, String.append_right_inj, attr_append_inj, String.append_right_inj]

/-- A descriptor tells of which test and of which project it is. -/
theorem launch_inj {moduleName testName project otherModule otherTest otherProject : String} :
    launch moduleName testName project = launch otherModule otherTest otherProject ↔
      moduleName = otherModule ∧ testName = otherTest ∧ project = otherProject := by
  constructor
  · intro same
    unfold launch at same
    simp only [String.append_assoc, String.append_right_inj, stringSetting_append_inj,
      -String.reduceAppend] at same
    obtain ⟨rfl, expression, projects, -⟩ := same
    refine ⟨rfl, ?_, projects⟩
    simpa [String.append_assoc, String.append_right_inj, String.append_left_inj] using expression
  · intro all
    obtain ⟨rfl, rfl, rfl⟩ := all
    rfl

end Texts

section Holding

/-- The directory holds these files and nothing else: each has a path of its own, at which its own text is
read. -/
structure HoldsEach (d d' : Disk) (dir : Path) (paths : List Path) (texts : List String) : Prop where
  apart : paths.Pairwise fun p q => p.same q = false
  own : List.Forall₂ (fun p text => d'.readText p = .ok text) paths texts
  children : ∀ p ∈ paths, ∃ name, p.address d.workDir = dir.address d.workDir ++ [name]
  only : ∀ a, isInside a (dir.address d.workDir) = true → (d'.find? a).isSome →
    ∃ p ∈ paths, a = p.address d.workDir

/-- The name of the entry that a name leads to, seen from the directory. -/
def entryName (workDir : Address) (dir : Path) (name : String) : String :=
  ((dir.child name).address workDir).getLastD ""

/-- Do the names lead to entries of the directory, each to its own, and is the directory emptied for them? -/
structure HasRoom (d : Disk) (dir : Path) (names : List String) : Prop where
  children : ∀ name ∈ names, NamesChild d.workDir dir name
  apart : names.Pairwise fun name other =>
    (dir.child name).address d.workDir ≠ (dir.child other).address d.workDir
  empties : Empties d dir (names.map (entryName d.workDir dir))

theorem NamesChild.address_eq (child : NamesChild workDir dir name) :
    (dir.child name).address workDir = dir.address workDir ++ [entryName workDir dir name] := by
  obtain ⟨last, place⟩ := child
  rw [entryName, place, List.getLastD_concat]

section Filling

variable (refilled : Refilled d d' dir files)

include refilled

theorem hasRoom_of_holdsEach (told : ∀ f ∈ files, ∀ g ∈ files, f.2 = g.2 → f.1 = g.1)
    (holds : HoldsEach d d' dir (files.map (dir.child ·.1)) (files.map (·.2))) :
    HasRoom d dir (files.map (·.1)) := by
  obtain ⟨apart, own, children, only⟩ := holds
  rw [List.forall_mem_map] at children
  rw [List.forall₂_map_left_iff, List.forall₂_map_right_iff, List.forall₂_same] at own
  have found : ∀ f ∈ files, d'.find? ((dir.child f.1).address d.workDir) = some (.file f.2) :=
    fun f member => (refilled.readText_eq_ok_iff member).mp (own f member)
  refine ⟨List.forall_mem_map.mpr children, ?_, ?_⟩
  · rw [List.pairwise_map] at apart ⊢
    refine apart.imp_of_mem fun {f g} member other different same => ?_
    -- Two files at one address would have one text, and so one name.
    have texts := found f member
    rw [same, found g other] at texts
    have sameName : f.1 = g.1 := told f member g other (by simpa using texts.symm)
    simp [sameName, Path.same] at different
  · obtain ⟨middle, remade, inOrder⟩ := refilled
    rw [List.map_map, Function.comp_def]
    have entries : ∀ f ∈ files, (dir.child f.1).address d.workDir =
        dir.address d.workDir ++ [entryName d.workDir dir f.1] :=
      fun f member => NamesChild.address_eq (children f member)
    refine empties_of_inside remade (.of_writeAll inOrder) entries fun a inside e there => ?_
    obtain ⟨p, listed, rfl⟩ := only a inside (by rw [there]; rfl)
    obtain ⟨f, member, rfl⟩ := List.mem_map.mp listed
    rw [found f member] at there
    exact ⟨f, member, entries f member, (Option.some.inj there).symm⟩

theorem holdsEach_of_hasRoom (room : HasRoom d dir (files.map (·.1))) :
    HoldsEach d d' dir (files.map (dir.child ·.1)) (files.map (·.2)) := by
  obtain ⟨children, apart, empties⟩ := room
  rw [List.forall_mem_map] at children
  rw [List.pairwise_map] at apart
  refine ⟨?_, ?_, List.forall_mem_map.mpr children, ?_⟩
  · rw [List.pairwise_map]
    refine apart.imp fun different => Bool.eq_false_iff.mpr fun same => different ?_
    exact (Path.respelled_of_same same).address_eq _
  · rw [List.forall₂_map_left_iff, List.forall₂_map_right_iff, List.forall₂_same]
    exact refilled.readText_iff.mpr (apart.imp fun different same => absurd same different)
  · intro a inside there
    obtain ⟨middle, remade, inOrder⟩ := refilled
    rw [List.map_map, Function.comp_def] at empties
    have entries : ∀ f ∈ files, (dir.child f.1).address d.workDir =
        dir.address d.workDir ++ [entryName d.workDir dir f.1] :=
      fun f member => NamesChild.address_eq (children f member)
    obtain ⟨f, member, rfl⟩ := mem_of_inside remade (.of_writeAll inOrder) entries empties inside there
    exact ⟨dir.child f.1, List.mem_map_of_mem member, (entries f member).symm⟩

/-- Where no two files with different names have one text, the directory holds each of them exactly if there is
room for all. -/
theorem Refilled.holdsEach_iff (told : ∀ f ∈ files, ∀ g ∈ files, f.2 = g.2 → f.1 = g.1) :
    HoldsEach d d' dir (files.map (dir.child ·.1)) (files.map (·.2)) ↔ HasRoom d dir (files.map (·.1)) := by
  constructor
  · exact hasRoom_of_holdsEach refilled told
  · exact holdsEach_of_hasRoom refilled

end Filling

/-- In a tree, the directory of a plain path has room for names without slashes if they are different. -/
theorem hasRoom_iff_of_plain (refilled : Refilled d d' dir files) (tree : d.IsTree) (plain : dir.Plain)
    (named : dir.text ≠ "") {names : List String} (ends : ∀ name ∈ names, HasEnding name)
    (noSlashes : ∀ name ∈ names, '/' ∉ name.toList) : HasRoom d dir names ↔ names.Nodup := by
  have place : ∀ name ∈ names, (dir.child name).address d.workDir = dir.address d.workDir ++ [name] := by
    intro name member
    obtain ⟨stem, ending, names, rfl⟩ := ends name member
    exact Path.address_child (noSlashes _ member) (Path.partOf?_ending names stem)
  constructor
  · intro room
    exact room.apart.imp fun different same => different (by rw [same])
  · intro distinct
    refine ⟨fun name member => ⟨name, place name member⟩, ?_, refilled.empties_of_plain tree plain named⟩
    refine distinct.imp_of_mem fun {name other} member otherMember different same => different ?_
    rw [place name member, place other otherMember] at same
    exact List.singleton_inj.mp (List.append_cancel_left same)

end Holding

section Writing

variable {g : LaunchGeneration} {project : String} {results : List SuiteResult}

theorem launchNames_not_slash (noSlashes : ∀ t ∈ g.selected results, '/' ∉ t.1.toList ∧ '/' ∉ t.2.toList) :
    ∀ name ∈ launchNames g results, '/' ∉ name.toList :=
  List.forall_mem_map.mpr fun t member =>
    not_slash_launchFileName (noSlashes t member).1 (noSlashes t member).2

/-- Different tests have different names of files where a backtick stands in no name of a module, or in no
name of a test. -/
theorem launchNames_nodup_iff (plain : (∀ t ∈ g.selected results, '\x60' ∉ t.1.toList) ∨
    ∀ t ∈ g.selected results, '\x60' ∉ t.2.toList) :
    (launchNames g results).Nodup ↔ (g.selected results).Nodup := by
  constructor
  · exact List.Nodup.of_map _
  · intro distinct
    refine distinct.map_on fun t member u other same => Prod.ext_iff.mpr ?_
    rcases plain with modules | tests
    · exact (launchFileName_inj_of_modules (modules t member) (modules u other)).mp same
    · exact (launchFileName_inj_of_tests (tests t member) (tests u other)).mp same

theorem writeLaunch_holdsEach_iff
    (written : (writeLaunch (some dir) g (some project) results).on w = (.ok paths, w')) :
    paths = (g.selected results).map (fun t => dir.child (launchFileName t.1 t.2)) ∧
      (HoldsEach w.disk w'.disk dir paths ((g.selected results).map fun t => launch t.1 t.2 project) ↔
        HasRoom w.disk dir (launchNames g results)) ∧
      (w.disk.IsTree → dir.Plain → dir.text ≠ "" →
        (∀ t ∈ g.selected results, '/' ∉ t.1.toList ∧ '/' ∉ t.2.toList) →
        (HasRoom w.disk dir (launchNames g results) ↔ (launchNames g results).Nodup)) := by
  obtain ⟨rfl, refilled⟩ := writeLaunch_refilled written
  have told : ∀ f ∈ launchFiles g project results, ∀ h ∈ launchFiles g project results,
      f.2 = h.2 → f.1 = h.1 := by
    rw [launchFiles, List.forall_mem_map]
    refine fun t _ => List.forall_mem_map.mpr fun u _ same => ?_
    obtain ⟨sameModule, sameTest, -⟩ := launch_inj.mp same
    exact congrArg₂ launchFileName sameModule sameTest
  have texts : (launchFiles g project results).map (·.2) =
      (g.selected results).map fun t => launch t.1 t.2 project := List.map_map
  have holds := refilled.holdsEach_iff told
  rw [Option.getD_some, launchFiles_names, texts] at holds
  refine ⟨List.map_map, holds, fun tree plain nonempty noSlashes => ?_⟩
  exact hasRoom_iff_of_plain refilled tree plain nonempty (launchNames_ending g results)
    (launchNames_not_slash noSlashes)

end Writing

end SpecTest.Report
