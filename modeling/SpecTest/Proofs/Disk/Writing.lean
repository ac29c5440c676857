import SpecTest.Proofs.Disk.Making

/-!
What is read back after files were written one after the other.
-/

namespace SpecTest.Disk

open SpecTest.Data

variable {d d' : Disk} {p : Path} {text : String} {files : List (Path × String)}

/-- A file was written: nothing else has changed, and no directory was in its place. -/
structure Written (d d' : Disk) (p : Path) (text : String) : Prop where
  workDir : d'.workDir = d.workDir
  gone : d'.workDirGone = d.workDirGone
  valid : p.Valid
  reaches : d.Reaches p
  onWay : ∀ x ∈ p.trail d.workDir, d.IsDir x
  free : ¬ d.IsDir (p.address d.workDir)
  find? : ∀ x, d'.find? x = if x = p.address d.workDir then some (.file text) else d.find? x
  isTree : d.IsTree → d'.IsTree

namespace Written

theorem of_writeText (written : d.writeText p text = .ok d') : Written d d' p text := by
  obtain ⟨place, onWay, free, rfl⟩ := writeText_eq_ok written
  exact ⟨rfl, rfl, place.valid, place.reaches, onWay, free, fun _ => find?_put place.notRoot,
    place.isTree free⟩

theorem isDir_iff (written : Written d d' p text) {x : Address} : d'.IsDir x ↔ d.IsDir x := by
  rw [IsDir, written.find?]
  by_cases same : x = p.address d.workDir
  · rw [if_pos same, same]
    simp [written.free]
  · rw [if_neg same]
    exact Iff.rfl

end Written

def writeAll (d : Disk) : List (Path × String) → Except IoError Disk
  | [] => .ok d
  | (p, text) :: rest => do (← d.writeText p text).writeAll rest

/-- Files were written in order: the directories are the same, and at the address of each file is
one of those that were written there. -/
structure WrittenAll (d d' : Disk) (files : List (Path × String)) : Prop where
  workDir : d'.workDir = d.workDir
  gone : d'.workDirGone = d.workDirGone
  valid : ∀ f ∈ files, f.1.Valid
  reaches : ∀ f ∈ files, d.Reaches f.1
  onWay : ∀ f ∈ files, ∀ x ∈ f.1.trail d.workDir, d.IsDir x
  isDir_iff : ∀ x, d'.IsDir x ↔ d.IsDir x
  kept : ∀ x, (∀ f ∈ files, x ≠ f.1.address d.workDir) → d'.find? x = d.find? x
  atFile : ∀ f ∈ files, ∃ g ∈ files, g.1.address d.workDir = f.1.address d.workDir ∧
    d'.find? (f.1.address d.workDir) = some (.file g.2)
  isTree : d.IsTree → d'.IsTree

theorem writeAll_cons_eq_ok_iff :
    d.writeAll ((p, text) :: files) = .ok d' ↔
      ∃ middle, d.writeText p text = .ok middle ∧ middle.writeAll files = .ok d' :=
  bind_eq_ok_iff

namespace WrittenAll

theorem nil (d : Disk) : WrittenAll d d [] :=
  ⟨rfl, rfl, by simp, by simp, by simp, fun _ => Iff.rfl, fun _ _ => rfl, by simp, id⟩

theorem cons {middle : Disk} (first : Written d middle p text) (rest : WrittenAll middle d' files) :
    WrittenAll d d' ((p, text) :: files) where
  workDir := rest.workDir.trans first.workDir
  gone := rest.gone.trans first.gone
  valid := List.forall_mem_cons.mpr ⟨first.valid, rest.valid⟩
  reaches := by
    refine List.forall_mem_cons.mpr ⟨first.reaches, fun f member => ?_⟩
    have reaches := rest.reaches f member
    rwa [Reaches, first.gone] at reaches
  onWay := by
    refine List.forall_mem_cons.mpr ⟨first.onWay, fun f member x onWay => ?_⟩
    rw [← first.workDir] at onWay
    exact first.isDir_iff.mp (rest.onWay f member x onWay)
  isDir_iff x := (rest.isDir_iff x).trans first.isDir_iff
  kept x elsewhere := by
    obtain ⟨notHere, notLater⟩ := List.forall_mem_cons.mp elsewhere
    rw [rest.kept x (first.workDir ▸ notLater), first.find?, if_neg notHere]
  atFile := by
    have later : ∀ f ∈ files, ∃ g ∈ files, g.1.address d.workDir = f.1.address d.workDir ∧
        d'.find? (f.1.address d.workDir) = some (.file g.2) := first.workDir ▸ rest.atFile
    refine List.forall_mem_cons.mpr ⟨?_, fun f member => ?_⟩
    · by_cases again : ∃ f ∈ files, f.1.address d.workDir = p.address d.workDir
      · obtain ⟨f, member, same⟩ := again
        obtain ⟨g, written, sameToo, found⟩ := later f member
        exact ⟨g, List.mem_cons_of_mem _ written, sameToo.trans same, same ▸ found⟩
      · have notLater : ∀ f ∈ files, p.address d.workDir ≠ f.1.address d.workDir :=
          fun f member same => again ⟨f, member, same.symm⟩
        refine ⟨(p, text), List.mem_cons_self, rfl, ?_⟩
        rw [rest.kept _ (first.workDir ▸ notLater), first.find?, if_pos rfl]
    · obtain ⟨g, written, same, found⟩ := later f member
      exact ⟨g, List.mem_cons_of_mem _ written, same, found⟩
  isTree tree := rest.isTree (first.isTree tree)

theorem of_writeAll (written : d.writeAll files = .ok d') : WrittenAll d d' files := by
  induction files generalizing d with
  | nil =>
      cases written
      exact nil _
  | cons file files ih =>
      obtain ⟨middle, first, rest⟩ := writeAll_cons_eq_ok_iff.mp written
      exact cons (.of_writeText first) (ih rest)

theorem readText_eq_ok_iff (written : WrittenAll d d' files) {f : Path × String} (member : f ∈ files)
    {content : String} :
    d'.readText f.1 = .ok content ↔ d'.find? (f.1.address d.workDir) = some (.file content) := by
  rw [Disk.readText_eq_ok_iff, Reaches, written.workDir, written.gone]
  constructor
  · intro read
    obtain ⟨-, -, -, found⟩ := read
    exact found
  · intro found
    have onWay : ∀ x ∈ f.1.trail d.workDir, d'.IsDir x :=
      fun x passed => (written.isDir_iff x).mpr (written.onWay f member x passed)
    exact ⟨written.valid f member, written.reaches f member, onWay, found⟩

end WrittenAll

/-- All written files hold what was written where files with one address have one text. -/
theorem readText_writeAll_iff (written : d.writeAll files = .ok d') :
    (∀ f ∈ files, d'.readText f.1 = .ok f.2) ↔
      files.Pairwise fun f g => f.1.address d.workDir = g.1.address d.workDir → f.2 = g.2 := by
  have all := WrittenAll.of_writeAll written
  have atAddress : (∀ f ∈ files, d'.readText f.1 = .ok f.2) ↔
      ∀ f ∈ files, d'.find? (f.1.address d.workDir) = some (.file f.2) := by
    constructor
    · exact fun reads f member => (all.readText_eq_ok_iff member).mp (reads f member)
    · exact fun found f member => (all.readText_eq_ok_iff member).mpr (found f member)
  rw [atAddress]
  constructor
  · intro found
    refine List.pairwise_iff_forall_sublist.mpr fun {f g} both same => ?_
    have first := found f (both.subset (by simp))
    rw [same, found g (both.subset (by simp))] at first
    simpa using first.symm
  · intro apart f member
    obtain ⟨g, other, same, found⟩ := all.atFile f member
    have sameText : g.2 = f.2 :=
      apart.forall_of_forall_of_flip (fun _ _ _ => rfl)
        (apart.imp fun agree same => (agree same.symm).symm) other member same
    rw [found, sameText]

end SpecTest.Disk
