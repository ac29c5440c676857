import SpecTest.Proofs.Coverage.AllOrNothing
import SpecTest.Proofs.Report.Requests

/-!
What a refused request for launch descriptors leaves behind.

A request without a directory is refused before anything is done.  One without a project is refused when the
directory was made anew, as it is on every run, so that the descriptors of earlier runs are gone.
-/

namespace SpecTest.Report

open SpecTest.Coverage SpecTest.Disk SpecTest.Task

variable {d d' : Disk} {a : Address} {dir : Path} {place : Option Path} {g : LaunchGeneration}
  {project : Option String} {results : List SuiteResult} {reason : SettingsError} {w w' : World}

section Remaking

/-- Is there nothing that making the directory anew would change?  It has to be there without anything in it
that is not on its own way.  The path without a name makes nothing. -/
def IsFresh (d : Disk) (dir : Path) : Prop :=
  dir.text ≠ "" → d.isDirectory dir = true ∧
    ∀ a, isInside a (dir.address d.workDir) = true → a ∉ dir.route d.workDir → d.find? a = none

/-- What is there after a directory was made anew and nothing else was done. -/
structure MadeAnew (d d' : Disk) (dir : Path) : Prop where
  remade : Remade d d' dir
  outside : ∀ a, isInside a (dir.address d.workDir) = false → d'.find? a = d.find? a ∨
    a ∈ dir.route d.workDir ∧ d.find? a = none ∧ d'.find? a = some .directory
  unchanged_iff : (∀ a, d'.find? a = d.find? a) ↔ IsFresh d dir
  /-- In a tree, what was in the directory of a plain path is gone. -/
  plain : d.IsTree → dir.Plain → dir.text ≠ "" → IsEmptyDirectory d' dir ∧
    ((∀ a, d'.find? a = d.find? a) ↔ IsEmptyDirectory d dir)

theorem unchanged_remade_iff (remade : Remade d d' dir) : (∀ a, d'.find? a = d.find? a) ↔ IsFresh d dir := by
  constructor
  · intro unchanged named
    have isDirectory : d.isDirectory dir = true := by
      obtain ⟨-, -, present⟩ := isDirectory_iff.mp (remade.isDirectory named)
      refine (isDirectory_iff_of_remade remade).mpr ⟨named, fun x onWay => ?_⟩
      have isDir := present x (remade.workDir ▸ onWay)
      rwa [IsDir, unchanged] at isDir
    refine ⟨isDirectory, fun a inside notOnWay => ?_⟩
    rw [← unchanged, remade.find?, if_neg notOnWay, if_pos ⟨isDirectory, inside⟩]
  · intro fresh a
    rw [remade.find?]
    by_cases onWay : a ∈ dir.route d.workDir
    · have named : dir.text ≠ "" := by
        intro blank
        rw [route_of_blank blank] at onWay
        exact List.not_mem_nil onWay
      obtain ⟨-, -, present⟩ := isDirectory_iff.mp (fresh named).1
      rw [if_pos onWay]
      exact (present a onWay).symm
    · rw [if_neg onWay]
      split
      · rename_i cleared
        obtain ⟨isDirectory, inside⟩ := cleared
        have named : dir.text ≠ "" := fun blank => not_isDirectory_of_blank blank isDirectory
        exact ((fresh named).2 a inside onWay).symm
      · rfl

/-- No entry in the directory of a plain path is on its way. -/
theorem isFresh_iff_of_plain (plain : dir.Plain) (named : dir.text ≠ "") :
    IsFresh d dir ↔ IsEmptyDirectory d dir := by
  constructor
  · intro fresh
    obtain ⟨isDirectory, nothing⟩ := fresh named
    refine ⟨isDirectory, fun a inside => nothing a inside fun onWay => ?_⟩
    rw [not_isInside_of_mem_route plain onWay] at inside
    contradiction
  · intro empty _
    exact ⟨empty.1, fun a inside _ => empty.2 a inside⟩

theorem MadeAnew.of_remade (remade : Remade d d' dir) : MadeAnew d d' dir where
  remade := remade
  outside a := find?_outside remade
  unchanged_iff := unchanged_remade_iff remade
  plain tree plain named := by
    have empties : Empties d dir [] := (Refilled.empty remade).empties_of_plain tree plain named
    refine ⟨(isEmptyDirectory_iff remade).mpr ⟨named, empties⟩, ?_⟩
    rw [unchanged_remade_iff remade, isFresh_iff_of_plain plain named]

end Remaking

section Refusing

/-- A refused request writes no descriptor.  Without a directory it leaves all as it was.  Without a project it
leaves all as it is when the directory was made anew: that is as before exactly if the directory was there
with nothing in it. -/
theorem writeLaunch_refused
    (refused : (writeLaunch place g project results).on w = (.error (.settings reason), w')) :
    g ≠ .none ∧ (place = none ∧ reason = noLaunchDir ∧ w' = w ∨
      ∃ dir, place = some dir ∧ project = none ∧ reason = noLaunchProject ∧
        (recreate dir).on w = (.ok (), w') ∧ MadeAnew w.disk w'.disk dir) := by
  let s : Settings := { launchDir := place, launchGeneration := g, launchProject := project }
  obtain ⟨fails, prepared⟩ := (writeLaunch_on_refused_iff (s := s)).mp refused
  obtain ⟨asked, missing⟩ := Settings.checkLaunch_eq_error_iff.mp fails
  refine ⟨asked, ?_⟩
  rcases missing with ⟨nowhere, absent⟩ | ⟨⟨dir, there⟩, unnamed, absent⟩
  · left
    have nowhere : place = none := nowhere
    subst nowhere
    cases absent
    cases prepared
    exact ⟨rfl, rfl, rfl⟩
  · right
    have there : place = some dir := there
    subst there
    cases absent
    exact ⟨dir, rfl, unnamed, rfl, prepared, .of_remade (recreate_on_eq_ok prepared)⟩

section Samples

/-- A descriptor of an earlier run. -/
def describedDisk : Disk where
  entries := [(["work"], .directory), (["work", "launch"], .directory),
    (["work", "launch", "TestStack\x60TestPop.launch"], .file "<launchConfiguration/>")]
  workDir := ["work"]

theorem describedDisk_refuses : ((writeLaunch (some ⟨"launch"⟩) .all none []).on { disk := describedDisk }).1 =
    .error (.settings noLaunchProject) := by decide +kernel

theorem writeLaunch_refused_described :
    ∃ w', (writeLaunch (some ⟨"launch"⟩) .all none []).on { disk := describedDisk } =
        (.error (.settings noLaunchProject), w') ∧
      (recreate ⟨"launch"⟩).on { disk := describedDisk } = (.ok (), w') ∧
      IsEmptyDirectory w'.disk ⟨"launch"⟩ := by
  have refused := on_of_fst_error describedDisk_refuses
  obtain ⟨-, ⟨nowhere, -⟩ | ⟨dir, there, -, -, made, anew⟩⟩ := writeLaunch_refused refused
  · cases nowhere
  · cases there
    have tree : describedDisk.IsTree := isTree_of_entries (by decide)
    exact ⟨_, refused, made, (anew.plain tree (by decide) (by decide)).1⟩

/-- A request without a project takes the descriptors of an earlier run away before it is refused. -/
theorem writeLaunch_not_untouched :
    ¬ ∀ (place : Option Path) (g : LaunchGeneration) (project : Option String) (results : List SuiteResult)
        (reason : SettingsError) (w w' : World),
      (writeLaunch place g project results).on w = (.error (.settings reason), w') →
      ∀ a, w'.disk.find? a = w.disk.find? a := by
  intro untouched
  have same := untouched _ _ _ _ _ _ _ (on_of_fst_error describedDisk_refuses)
    ["work", "launch", "TestStack\x60TestPop.launch"]
  have gone : ((writeLaunch (some ⟨"launch"⟩) .all none []).on { disk := describedDisk }).2.disk.find?
      ["work", "launch", "TestStack\x60TestPop.launch"] = none := by decide +kernel
  rw [gone] at same
  exact absurd same (by decide)

end Samples

end Refusing

end SpecTest.Report
