import Mathlib.Data.List.Nodup
import SpecTest.Proofs.Report.Sparing

/-!
What a directory holds when it was made anew and files were written into it.

A directory that is there is emptied.  One that can be followed to only after directories on its way were
made is left as it was found then.
-/

namespace SpecTest.Report

open SpecTest.Disk

variable {d d' middle : Disk} {a x : Address} {dir : Path} {files : List (String × String)}
  {f : String × String} {names : List String}

/-- The directory holds these files and nothing else, each under its name.  Outside it, nothing but missing
directories on the way to it was made. -/
structure HoldsOnly (d d' : Disk) (dir : Path) (files : List (String × String)) : Prop where
  children : ∀ f ∈ files, (dir.child f.1).address d.workDir = dir.address d.workDir ++ [f.1]
  inside : ∀ a, isInside a (dir.address d.workDir) = true → ∀ e, d'.find? a = some e ↔
    ∃ f ∈ files, a = dir.address d.workDir ++ [f.1] ∧ e = .file f.2
  reads : ∀ f ∈ files, d'.readText (dir.child f.1) = .ok f.2
  outside : ∀ a, isInside a (dir.address d.workDir) = false → d'.find? a = d.find? a ∨
    a ∈ dir.route d.workDir ∧ d.find? a = none ∧ d'.find? a = some .directory

/-- Does making the directory anew leave nothing in it but what takes the place of these names?  The path
must not pass entries of the directory, and if it cannot be followed yet, nothing else may be there. -/
structure Empties (d : Disk) (dir : Path) (names : List String) : Prop where
  straight : ∀ x ∈ dir.route d.workDir, isInside x (dir.address d.workDir) = false
  stale : d.isDirectory dir = true ∨ ∀ a e, isInside a (dir.address d.workDir) = true →
    d.find? a = some e → ∃ name ∈ names, a = dir.address d.workDir ++ [name]

section Names

/-- Does the name begin and end so that its first and its last segment are names of entries? -/
def Enclosed (name : String) : Prop :=
  ∃ beginning stem ending, Path.NamesEntries beginning ∧ Path.NamesEntries ending ∧
    name = beginning ++ stem ++ ending

theorem Enclosed.address_child {name : String} (enclosed : Enclosed name) (noSlash : '/' ∉ name.toList)
    {workDir : Address} : (dir.child name).address workDir = dir.address workDir ++ [name] := by
  obtain ⟨beginning, stem, ending, -, named, rfl⟩ := enclosed
  exact Path.address_child noSlash (Path.partOf?_ending named _)

theorem Enclosed.exists_first {name : String} (enclosed : Enclosed name) (slash : '/' ∈ name.toList) :
    ∃ first rest, name = first ++ "/" ++ rest ∧ '/' ∉ first.toList ∧
      Path.partOf? first = some (.name first) := by
  obtain ⟨beginning, stem, ending, begins, -, rfl⟩ := enclosed
  rw [String.append_assoc, String.toList_append] at slash
  have behind : '/' ∈ (stem ++ ending).toList := (List.mem_append.mp slash).resolve_left begins.1
  obtain ⟨front, back, cut, plain⟩ := List.eq_append_cons_of_mem behind
  refine ⟨beginning ++ String.ofList front, String.ofList back, ?_, ?_, ?_⟩
  · rw [← String.toList_inj, String.append_assoc, String.toList_append, cut]
    simp
  · rw [String.toList_append, String.toList_ofList, List.mem_append, not_or]
    exact ⟨begins.1, plain⟩
  · refine Path.partOf?_of_long ?_
    rw [String.length_append]
    exact Nat.lt_of_lt_of_le begins.2 (Nat.le_add_right _ _)

end Names

section Emptying

theorem find?_inside (remade : Remade d middle dir) (empties : Empties d dir names) {e : Entry}
    (inside : isInside a (dir.address d.workDir) = true) (found : middle.find? a = some e) :
    ∃ name ∈ names, a = dir.address d.workDir ++ [name] := by
  have notOnWay : a ∉ dir.route d.workDir := by
    intro onWay
    rw [empties.straight a onWay] at inside
    contradiction
  rw [remade.find?, if_neg notOnWay] at found
  rcases empties.stale with isDirectory | only
  · rw [if_pos ⟨isDirectory, inside⟩] at found
    contradiction
  · split at found
    · contradiction
    · exact only a e inside found

theorem find?_outside (remade : Remade d middle dir) (outside : isInside a (dir.address d.workDir) = false) :
    middle.find? a = d.find? a ∨
      a ∈ dir.route d.workDir ∧ d.find? a = none ∧ middle.find? a = some .directory := by
  rw [remade.find?]
  by_cases onWay : a ∈ dir.route d.workDir
  · rw [if_pos onWay]
    cases before : d.find? a with
    | none => exact .inr ⟨onWay, rfl, rfl⟩
    | some e =>
        cases e with
        | file text => exact absurd before (remade.onWay a onWay text)
        | directory => exact .inl rfl
  · rw [if_neg onWay, if_neg (by simp [outside])]
    exact .inl rfl

/-- A name with a slash cannot be written where the directory is empty: its way would pass a directory there. -/
theorem address_child_of_empties (remade : Remade d middle dir)
    (all : WrittenAll middle d' (placed dir files)) (empties : Empties d dir (files.map (·.1)))
    (enclosed : ∀ f ∈ files, Enclosed f.1) (member : f ∈ files) :
    (dir.child f.1).address d.workDir = dir.address d.workDir ++ [f.1] := by
  by_cases slash : '/' ∈ f.1.toList
  · obtain ⟨first, rest, spelled, plain, named⟩ := (enclosed f member).exists_first slash
    have onWay : dir.address d.workDir ++ [first] ∈ (dir.child f.1).trail middle.workDir := by
      rw [spelled, remade.workDir]
      exact Path.mem_trail_child plain named rest
    have isDir : middle.IsDir (dir.address d.workDir ++ [first]) := all.onWay _ (mem_placed member) _ onWay
    obtain ⟨name, listed, same⟩ :=
      find?_inside remade empties (isInside_concat_iff.mpr (List.prefix_refl _)) isDir
    obtain ⟨g, other, rfl⟩ := List.mem_map.mp listed
    have sameName : first = g.1 := List.singleton_inj.mp (List.append_cancel_left same)
    obtain ⟨written, -, -, found⟩ := all.atFile _ (mem_placed other)
    rw [remade.workDir, Path.address_child (sameName ▸ plain) (sameName ▸ named), ← sameName] at found
    have isDirStill := (all.isDir_iff _).mpr isDir
    rw [IsDir, found] at isDirStill
    cases isDirStill
  · exact (enclosed f member).address_child slash

end Emptying

section Holding

variable (remade : Remade d middle dir) (all : WrittenAll middle d' (placed dir files))

include remade all

section Entries

variable {entry : String × String → String}
  (children : ∀ f ∈ files, (dir.child f.1).address d.workDir = dir.address d.workDir ++ [entry f])

include children

theorem empties_of_inside (inside : ∀ a, isInside a (dir.address d.workDir) = true → ∀ e,
    d'.find? a = some e → ∃ f ∈ files, a = dir.address d.workDir ++ [entry f] ∧ e = .file f.2) :
    Empties d dir (files.map entry) := by
  have notDir {x : Address} (behind : isInside x (dir.address d.workDir) = true) : ¬ middle.IsDir x := by
    intro isDir
    obtain ⟨f, -, -, same⟩ := inside x behind _ ((all.isDir_iff x).mpr isDir)
    cases same
  have straight : ∀ x ∈ dir.route d.workDir, isInside x (dir.address d.workDir) = false := by
    intro x onWay
    refine Bool.eq_false_iff.mpr fun behind => notDir behind ?_
    rw [IsDir, remade.find?, if_pos onWay]
  refine ⟨straight, or_iff_not_imp_left.mpr fun notThere a e behind before => ?_⟩
  have notOnWay : a ∉ dir.route d.workDir := by
    intro onWay
    rw [straight a onWay] at behind
    contradiction
  have here : middle.find? a = some e := by
    rw [remade.find?, if_neg notOnWay, if_neg fun both => notThere both.1]
    exact before
  by_cases written : ∃ f ∈ files, (dir.child f.1).address d.workDir = a
  · obtain ⟨f, member, rfl⟩ := written
    exact ⟨entry f, List.mem_map_of_mem member, children f member⟩
  · have kept : d'.find? a = middle.find? a := by
      refine all.kept a ?_
      rw [placed, List.forall_mem_map, remade.workDir]
      exact fun f member same => written ⟨f, member, same.symm⟩
    obtain ⟨f, member, place, -⟩ := inside a behind e (kept.trans here)
    exact ⟨entry f, List.mem_map_of_mem member, place⟩

/-- An entry of an emptied directory is one of the files that were written there. -/
theorem mem_of_inside (empties : Empties d dir (files.map entry))
    (inside : isInside a (dir.address d.workDir) = true) (there : (d'.find? a).isSome) :
    ∃ f ∈ files, a = dir.address d.workDir ++ [entry f] := by
  by_contra elsewhere
  have kept : d'.find? a = middle.find? a := by
    refine all.kept a ?_
    rw [placed, List.forall_mem_map, remade.workDir]
    exact fun f member same => elsewhere ⟨f, member, same.trans (children f member)⟩
  obtain ⟨e, found⟩ := Option.isSome_iff_exists.mp there
  obtain ⟨name, listed, place⟩ := find?_inside remade empties inside (kept.symm.trans found)
  obtain ⟨f, member, rfl⟩ := List.mem_map.mp listed
  exact elsewhere ⟨f, member, place⟩

end Entries

theorem empties_of_holdsOnly (holds : HoldsOnly d d' dir files) : Empties d dir (files.map (·.1)) :=
  empties_of_inside remade all holds.children fun a inside e => (holds.inside a inside e).mp

theorem holdsOnly_of_empties (empties : Empties d dir (files.map (·.1)))
    (enclosed : ∀ f ∈ files, Enclosed f.1) (distinct : (files.map (·.1)).Nodup) :
    HoldsOnly d d' dir files := by
  have children : ∀ f ∈ files, (dir.child f.1).address d.workDir = dir.address d.workDir ++ [f.1] :=
    fun f member => address_child_of_empties remade all empties enclosed member
  have atFile : ∀ f ∈ files, d'.find? (dir.address d.workDir ++ [f.1]) = some (.file f.2) := by
    intro f member
    obtain ⟨_, listed, same, found⟩ := all.atFile _ (mem_placed member)
    obtain ⟨g, other, rfl⟩ := List.mem_map.mp listed
    rw [remade.workDir, children f member, children g other] at same
    have sameName : g.1 = f.1 := List.singleton_inj.mp (List.append_cancel_left same)
    rw [remade.workDir, children f member] at found
    rwa [List.inj_on_of_nodup_map distinct other member sameName] at found
  refine ⟨children, fun a inside e => ?_, fun f member => ?_, fun a outside => ?_⟩
  · constructor
    · intro found
      obtain ⟨f, member, rfl⟩ := mem_of_inside remade all children empties inside (by rw [found]; rfl)
      rw [atFile f member] at found
      exact ⟨f, member, rfl, (Option.some.inj found).symm⟩
    · intro written
      obtain ⟨f, member, rfl, rfl⟩ := written
      exact atFile f member
  · have found := atFile f member
    rw [← children f member, ← remade.workDir] at found
    exact (all.readText_eq_ok_iff (mem_placed member)).mpr found
  · have kept : d'.find? a = middle.find? a := by
      refine all.kept a ?_
      rw [placed, List.forall_mem_map, remade.workDir]
      intro f member same
      rw [same, children f member, isInside_concat_iff.mpr (List.prefix_refl _)] at outside
      contradiction
    rw [kept]
    exact find?_outside remade outside

end Holding

/-- A directory holds exactly the files that were written into it where it was empty when it was made anew. -/
theorem Refilled.holdsOnly_iff (refilled : Refilled d d' dir files) (enclosed : ∀ f ∈ files, Enclosed f.1)
    (distinct : (files.map (·.1)).Nodup) : HoldsOnly d d' dir files ↔ Empties d dir (files.map (·.1)) := by
  obtain ⟨middle, remade, inOrder⟩ := refilled
  have all := WrittenAll.of_writeAll inOrder
  constructor
  · exact empties_of_holdsOnly remade all
  · intro empties
    exact holdsOnly_of_empties remade all empties enclosed distinct

/-- In a tree, the directory of a plain path is always emptied. -/
theorem Refilled.empties_of_plain (refilled : Refilled d d' dir files) (tree : d.IsTree)
    (plain : dir.Plain) (named : dir.text ≠ "") : Empties d dir names := by
  obtain ⟨middle, remade, -⟩ := refilled
  refine ⟨fun x onWay => not_isInside_of_mem_route plain onWay, ?_⟩
  refine or_iff_not_imp_left.mpr fun notThere a e inside found => absurd ?_ notThere
  have clears := (clears_iff_of_plain tree plain (by rw [found]; rfl)).mpr ⟨named, inside⟩
  exact ((clears_iff remade).mpr clears).1

end SpecTest.Report
