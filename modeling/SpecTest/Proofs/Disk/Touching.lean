import SpecTest.Proofs.Disk.Writing

/-!
Which files operations may touch, whether they succeed or fail half way.
-/

namespace SpecTest.Disk

/-- Files are new or have changed at the ends of the paths only, and others are gone from the inside of the
directory only. -/
structure Touches (dir : Path) (paths : Path → Prop) (d d' : Disk) : Prop where
  workDir : d'.workDir = d.workDir
  written : ∀ a text, d'.find? a = some (.file text) →
    d.find? a = some (.file text) ∨ ∃ p, paths p ∧ p.address d.workDir = a
  kept : ∀ a text, d.find? a = some (.file text) → d'.find? a = some (.file text) ∨
    isInside a (dir.address d.workDir) = true ∨ ∃ p, paths p ∧ p.address d.workDir = a

variable {dir p : Path} {paths : Path → Prop} {d d' : Disk}

namespace Touches

theorem refl (d : Disk) : Touches dir paths d d :=
  ⟨rfl, fun _ _ => .inl, fun _ _ => .inl⟩

theorem trans {middle : Disk} (first : Touches dir paths d middle) (second : Touches dir paths middle d') :
    Touches dir paths d d' := by
  refine ⟨second.workDir.trans first.workDir, fun a text there => ?_, fun a text there => ?_⟩
  · rcases second.written a text there with before | named
    · exact first.written a text before
    · rw [first.workDir] at named
      exact .inr named
  · rcases first.kept a text there with still | gone
    · have later := second.kept a text still
      rw [first.workDir] at later
      exact later
    · exact .inr gone

theorem of_writeText {text : String} (written : d.writeText p text = .ok d') (named : paths p) :
    Touches dir paths d d' := by
  have written := Written.of_writeText written
  refine ⟨written.workDir, fun a content there => ?_, fun a content there => ?_⟩
  · rw [written.find?] at there
    by_cases here : a = p.address d.workDir
    · exact .inr ⟨p, named, here.symm⟩
    · rw [if_neg here] at there
      exact .inl there
  · by_cases here : a = p.address d.workDir
    · exact .inr (.inr ⟨p, named, here.symm⟩)
    · rw [written.find?, if_neg here]
      exact .inl there

theorem of_makeDirectory (made : d.makeDirectory p = .ok d') : Touches dir paths d d' := by
  obtain ⟨place, free, rfl⟩ := makeDirectory_eq_ok made
  have elsewhere {a : Address} {e : Entry} (there : d.find? a = some e) : a ≠ p.address d.workDir := by
    intro here
    rw [here, free] at there
    contradiction
  refine ⟨rfl, fun a text there => ?_, fun a text there => ?_⟩
  · rw [find?_put place.notRoot] at there
    split at there
    · cases there
    · exact .inl there
  · rw [find?_put place.notRoot, if_neg (elsewhere there)]
    exact .inl there

theorem of_clear : Touches dir paths d (d.clear (dir.address d.workDir)) := by
  refine ⟨rfl, fun a text there => ?_, fun a text there => ?_⟩
  · rw [find?_clear] at there
    split at there
    · cases there
    · exact .inl there
  · rw [find?_clear]
    by_cases inside : isInside a (dir.address d.workDir) = true
    · exact .inr (.inl inside)
    · rw [if_neg inside]
      exact .inl there

theorem of_erase {a : Address} (isDir : d.IsDir a) : Touches dir paths d (d.erase a) := by
  refine ⟨rfl, fun x text there => ?_, fun x text there => ?_⟩
  · by_cases here : x = a
    · rw [here] at there
      exact absurd there find?_erase_ne_file
    · rw [find?_erase_of_ne here] at there
      exact .inl there
  · have elsewhere : x ≠ a := by
      intro here
      rw [here, isDir] at there
      cases there
    rw [find?_erase_of_ne elsewhere]
    exact .inl there

end Touches

theorem createTreeFrom_touches (fuel : Nat) (d : Disk) (p : Path) :
    Touches dir paths d (createTreeFrom fuel d p).2 := by
  induction fuel generalizing d p with
  | zero => exact .refl d
  | succ fuel ih =>
      have again (e : IoError) (v : Disk) :
          (if v.isDirectory p then (Except.ok (), v) else (.error e, v)).2 = v := by
        split
        · rfl
        · rfl
      rw [createTreeFrom]
      split
      · exact .refl d
      · dsimp only
        split
        · rename_i made
          exact .of_makeDirectory made
        · split
          · exact .refl d
          · rename_i parent _
            have around := ih d parent
            split
            · rename_i failed
              rw [failed] at around
              exact around
            · rename_i middle done
              rw [done] at around
              split
              · rename_i made
                exact around.trans (.of_makeDirectory made)
              · rw [again]
                exact around
        · rw [again]
          exact .refl d

theorem removeTree_touches (d : Disk) (dir : Path) : Touches dir paths d (d.removeTree dir).2 := by
  unfold removeTree
  split
  · exact .refl d
  · exact .refl d
  · rename_i a found
    obtain ⟨-, -, -, rfl, isDir⟩ := lookup_eq_ok_iff.mp found
    have cleared : Touches dir paths d (d.clear (dir.address d.workDir)) := .of_clear
    have isDirStill : (d.clear (dir.address d.workDir)).IsDir (dir.address d.workDir) := by
      rw [IsDir, find?_clear, not_isInside_self]
      exact isDir
    dsimp only
    split
    · exact cleared
    · exact cleared
    · split
      · exact cleared
      · exact cleared
      · exact cleared
      · exact cleared.trans (.of_erase isDirStill)

/-- Every file that is there is a direct child of the directory, unless it was there already, and no file
outside the directory is changed or gone. -/
structure Confined (dir : Path) (d d' : Disk) : Prop where
  written : ∀ a text, d'.find? a = some (.file text) → d.find? a ≠ some (.file text) →
    ∃ name, a = dir.address d.workDir ++ [name]
  kept : ∀ a text, d.find? a = some (.file text) → d'.find? a ≠ some (.file text) →
    isInside a (dir.address d.workDir) = true

theorem Touches.confined (touches : Touches dir paths d d')
    (inside : ∀ q, paths q → (∃ name, q.address d.workDir = dir.address d.workDir ++ [name]) ∨
      d'.find? (q.address d.workDir) = d.find? (q.address d.workDir)) : Confined dir d d' := by
  refine ⟨fun a text there new => ?_, fun a text there gone => ?_⟩
  · rcases touches.written a text there with before | ⟨q, named, rfl⟩
    · exact absurd before new
    · rcases inside q named with child | same
      · exact child
      · exact absurd (same ▸ there) new
  · rcases touches.kept a text there with still | cleared | ⟨q, named, rfl⟩
    · exact absurd still gone
    · exact cleared
    · rcases inside q named with ⟨name, child⟩ | same
      · rw [child]
        exact isInside_concat_iff.mpr (List.prefix_refl _)
      · exact absurd (same ▸ there) gone

end SpecTest.Disk
