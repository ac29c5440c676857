import SpecTest.Proofs.Disk.Following
import SpecTest.Proofs.Path.Parent

/-!
What operations do to a file system where they succeed.
-/

namespace SpecTest.Disk

open SpecTest.Data

variable {d d' : Disk} {p : Path} {text : String}

/-- The place of an entry that can be made: its path is valid and can be followed from somewhere, all
directories on the way are there, and so is the one around it. -/
structure HasPlace (d : Disk) (p : Path) : Prop where
  valid : p.Valid
  reaches : d.Reaches p
  onWay : ∀ x ∈ Path.passed (p.base d.workDir) (trimmedSegments p), d.IsDir x
  trimmed : trimmedSegments p ≠ []
  around : ∃ dir name, d.IsDir dir ∧ p.address d.workDir = dir ++ [name]

theorem HasPlace.notRoot (place : HasPlace d p) : p.address d.workDir ≠ [] := by
  obtain ⟨dir, name, -, inside⟩ := place.around
  rw [inside]
  simp

theorem HasPlace.isTree {e : Entry} (place : HasPlace d p) (free : ¬ d.IsDir (p.address d.workDir))
    (tree : d.IsTree) : (d.put (p.address d.workDir) e).IsTree := by
  obtain ⟨dir, name, isDir, inside⟩ := place.around
  rw [inside] at free ⊢
  exact tree.put isDir free

theorem parentAddress_eq_ok_iff {a : Address} :
    d.parentAddress p = .ok a ↔ d.start p = .ok (p.base d.workDir) ∧
      (∀ x ∈ Path.passed (p.base d.workDir) (trimmedSegments p).dropLast, d.IsDir x) ∧
      (∀ segment ∈ (trimmedSegments p).dropLast, ∀ n, Path.partOf? segment = some (.name n) →
        n.utf8ByteSize ≤ nameLimit) ∧
      d.IsDir a ∧ a = (trimmedSegments p).dropLast.foldl Path.turn (p.base d.workDir) := by
  simp only [parentAddress, bind_eq_ok_iff, follow_eq_ok_iff, step_eq_ok_iff]
  constructor
  · intro found
    obtain ⟨base, begun, goal, ⟨dirs, names, rfl⟩, isDir, -, rfl⟩ := found
    obtain ⟨-, -, -, -, rfl⟩ := start_eq_ok_iff.mp begun
    exact ⟨begun, dirs, names, isDir, rfl⟩
  · intro leads
    obtain ⟨begun, dirs, names, isDir, rfl⟩ := leads
    exact ⟨_, begun, _, ⟨dirs, names, rfl⟩, isDir, by simp [Path.partOf?], rfl⟩

theorem trimmedSegments_split (trimmed : trimmedSegments p ≠ []) :
    trimmedSegments p = (trimmedSegments p).dropLast ++ [(trimmedSegments p).getLastD ""] := by
  rw [List.getLastD_eq_getLast?, List.getLast?_eq_some_getLast trimmed, Option.getD_some,
    List.dropLast_concat_getLast]

theorem lastAddress_eq_some {a : Address} (found : d.lastAddress p = .ok (some a)) :
    d.HasPlace p ∧ a = p.address d.workDir := by
  simp only [lastAddress, bind_eq_ok_iff, step_eq_ok_iff] at found
  obtain ⟨parent, around, goal, ⟨-, fits, rfl⟩, found⟩ := found
  obtain ⟨begun, dirs, names, isDir, rfl⟩ := parentAddress_eq_ok_iff.mp around
  split at found
  · rename_i n isName
    cases pure_eq_ok_iff.mp found
    have trimmed : trimmedSegments p ≠ [] := by
      intro none
      simp [none, Path.partOf?] at isName
    have whole := trimmedSegments_split trimmed
    have goal : p.address d.workDir = Path.turn
        ((trimmedSegments p).dropLast.foldl Path.turn (p.base d.workDir))
        ((trimmedSegments p).getLastD "") := by
      have folded := congrArg (List.foldl Path.turn (p.base d.workDir)) whole
      rwa [List.foldl_append, ← Path.address_eq_trimmed] at folded
    obtain ⟨noNul, named, short, reaches, -⟩ := start_eq_ok_iff.mp begun
    refine ⟨⟨⟨noNul, named, short, ?_⟩, reaches, ?_, trimmed, ?_⟩, goal.symm⟩
    · intro segment member name part
      obtain ⟨count, segments⟩ := p.segments_eq_trimmed
      rw [segments, whole] at member
      simp only [List.mem_append, List.mem_singleton, List.mem_replicate] at member
      rcases member with (inside | rfl) | ⟨-, rfl⟩
      · exact names segment inside name part
      · exact fits name part
      · simp [Path.partOf?] at part
    · intro x member
      rw [whole, Path.passed_append] at member
      rcases List.mem_append.mp member with before | last
      · exact dirs x before
      · rw [List.mem_singleton.mp last]
        exact isDir
    · exact ⟨_, n, isDir, by rw [goal, Path.turn, isName]⟩
  · exact absurd (pure_eq_ok_iff.mp found) (by simp)

theorem makeDirectory_eq_ok (made : d.makeDirectory p = .ok d') :
    d.HasPlace p ∧ d.find? (p.address d.workDir) = none ∧
      d' = d.put (p.address d.workDir) .directory := by
  simp only [makeDirectory, bind_eq_ok_iff] at made
  obtain ⟨place, found, made⟩ := made
  cases place with
  | none => contradiction
  | some a =>
      obtain ⟨place, rfl⟩ := lastAddress_eq_some found
      dsimp only at made
      split at made
      · contradiction
      · rename_i free
        cases made
        exact ⟨place, by simpa using free, rfl⟩

theorem writeText_eq_ok (written : d.writeText p text = .ok d') :
    d.HasPlace p ∧ (∀ x ∈ p.trail d.workDir, d.IsDir x) ∧
      ¬ d.IsDir (p.address d.workDir) ∧ d' = d.put (p.address d.workDir) (.file text) := by
  by_cases slash : p.endsInSlash = true
  · simp only [writeText, if_pos slash, bind_eq_ok_iff] at written
    obtain ⟨_, -, _, refused, -⟩ := written
    cases refused
  · simp only [writeText, if_neg slash, bind_eq_ok_iff] at written
    obtain ⟨place, found, written⟩ := written
    cases place with
    | none => contradiction
    | some a =>
        obtain ⟨place, rfl⟩ := lastAddress_eq_some found
        dsimp only at written
        split at written
        · contradiction
        · rename_i free
          cases written
          have whole := Path.trimmed_eq_segments (by simpa using slash) place.trimmed
          refine ⟨place, ?_, free, rfl⟩
          rw [Path.trail, whole]
          exact place.onWay

/-- A tree of directories was made: the path leads to a directory, and at most addresses on its way
that had no entry have changed. -/
structure Made (d d' : Disk) (p : Path) : Prop where
  workDir : d'.workDir = d.workDir
  gone : d'.workDirGone = d.workDirGone
  isDirectory : d'.isDirectory p = true
  changed : ∀ x, d'.find? x = d.find? x ∨
    x ∈ p.route d.workDir ∧ d.find? x = none ∧ d'.find? x = some .directory
  isTree : d.IsTree → d'.IsTree

namespace Made

theorem refl (isDirectory : d.isDirectory p = true) : Made d d p :=
  ⟨rfl, rfl, isDirectory, fun _ => .inl rfl, id⟩

theorem of_refused {reason : IoError}
    (done : (if d.isDirectory p then (Except.ok (), d) else (.error reason, d)) = (.ok (), d')) :
    Made d d' p := by
  split at done
  · rename_i isDirectory
    cases done
    exact .refl isDirectory
  · cases done

/-- Trees on the way of a path may be made in two goes. -/
theorem trans {middle : Disk} {q : Path} (first : Made d middle q) (second : Made middle d' p)
    (onWay : ∀ x ∈ q.route d.workDir, x ∈ p.route d.workDir) : Made d d' p := by
  refine ⟨second.workDir.trans first.workDir, second.gone.trans first.gone, second.isDirectory,
    fun x => ?_, fun tree => second.isTree (first.isTree tree)⟩
  rcases second.changed x with kept | ⟨member, free, isDir⟩
  · rcases first.changed x with keptBefore | ⟨member, free, isDir⟩
    · exact .inl (kept.trans keptBefore)
    · exact .inr ⟨onWay x member, free, kept.trans isDir⟩
  · rw [first.workDir] at member
    rcases first.changed x with keptBefore | ⟨_, _, isDirBefore⟩
    · exact .inr ⟨member, keptBefore ▸ free, isDir⟩
    · rw [free] at isDirBefore
      contradiction

theorem of_makeDirectory (made : d.makeDirectory p = .ok d') : Made d d' p := by
  obtain ⟨place, free, rfl⟩ := makeDirectory_eq_ok made
  have atEnd : (d.put (p.address d.workDir) .directory).IsDir (p.address d.workDir) := by
    rw [IsDir, find?_put place.notRoot, if_pos rfl]
  have notDir : ¬ d.IsDir (p.address d.workDir) := by
    rw [IsDir, free]
    simp
  refine ⟨rfl, rfl, isDirectory_iff.mpr ⟨place.valid, place.reaches, fun x member => ?_⟩, fun x => ?_,
    place.isTree notDir⟩
  · rcases (Path.mem_route_iff place.valid.named).mp member with onWay | rfl
    · have isDir : d.IsDir x := place.onWay x onWay
      have different : x ≠ p.address d.workDir := by
        intro same
        subst same
        exact notDir isDir
      rw [IsDir, find?_put place.notRoot, if_neg different]
      exact isDir
    · exact atEnd
  · by_cases same : x = p.address d.workDir
    · rw [same]
      exact .inr ⟨(Path.mem_route_iff place.valid.named).mpr (.inr rfl), free, atEnd⟩
    · exact .inl (by rw [find?_put place.notRoot, if_neg same])

end Made

theorem createTreeFrom_eq_ok {fuel : Nat} (made : createTreeFrom fuel d p = (.ok (), d')) :
    p.text = "" ∧ d' = d ∨ Made d d' p := by
  induction fuel generalizing p d' with
  | zero => cases made
  | succ fuel ih =>
      rw [createTreeFrom] at made
      by_cases blank : p.text = ""
      · rw [if_pos blank] at made
        cases made
        exact .inl ⟨blank, rfl⟩
      · rw [if_neg blank] at made
        refine .inr ?_
        dsimp only at made
        split at made
        · rename_i first
          cases made
          exact .of_makeDirectory first
        · -- Only where the parent is missing is it made first, and the directory tried again.
          split at made
          · cases made
          · rename_i parent found
            split at made
            · cases made
            · rename_i middle around
              have second : Made middle d' p := by
                split at made
                · rename_i second
                  cases made
                  exact .of_makeDirectory second
                · exact .of_refused made
              rcases ih around with ⟨-, rfl⟩ | first
              · exact second
              · exact first.trans second fun x member => Path.parent?_route blank found member
        · exact .of_refused made

/-- Does the working directory go with the directory of the path?  That directory stays when the path goes
through one of its entries. -/
def TakesWorkDir (workDir : Address) (p : Path) : Prop :=
  isInside workDir (p.address workDir) = true ∨ workDir = p.address workDir ∧
    ∀ x ∈ p.trail workDir, isInside x (p.address workDir) = false

/-- The way to a cleared directory is open still where it does not pass what was cleared. -/
theorem exists_parentAddress_clear_iff (valid : p.Valid) (isDir : ∀ x ∈ p.route d.workDir, d.IsDir x) :
    (∃ around, (d.clear (p.address d.workDir)).parentAddress p = .ok around) ↔
      (d.clear (p.address d.workDir)).Reaches p ∧
        ∀ x ∈ p.trail d.workDir, isInside x (p.address d.workDir) = false := by
  have cleared {x : Address} : (d.clear (p.address d.workDir)).IsDir x ↔
      isInside x (p.address d.workDir) = false ∧ d.IsDir x := by
    rw [IsDir, find?_clear]
    cases isInside x (p.address d.workDir) <;> simp [IsDir]
  simp only [parentAddress_eq_ok_iff, start_eq_ok_iff, cleared]
  constructor
  · intro leads
    obtain ⟨around, ⟨-, -, -, reaches, -⟩, dirs, -, ⟨outside, -⟩, rfl⟩ := leads
    refine ⟨reaches, fun x onWay => ?_⟩
    rcases (Path.mem_route_iff valid.named).mp (Path.trail_subset_route valid.named onWay) with before | rfl
    · by_cases trimmed : trimmedSegments p = []
      · rw [trimmed] at before
        contradiction
      · rw [trimmedSegments_split trimmed, Path.passed_append] at before
        rcases List.mem_append.mp before with before | last
        · exact (dirs x before).1
        · rw [List.mem_singleton.mp last]
          exact outside
    · exact not_isInside_self
  · intro straight
    obtain ⟨reaches, outside⟩ := straight
    have front : (trimmedSegments p).dropLast <+: p.segments := by
      obtain ⟨count, segments⟩ := p.segments_eq_trimmed
      rw [segments]
      exact (List.dropLast_prefix _).trans (List.prefix_append _ _)
    have onRoute {x : Address} (member : x ∈ p.trail d.workDir ++ [p.address d.workDir]) :
        isInside x (p.address d.workDir) = false ∧ d.IsDir x := by
      refine ⟨?_, isDir x (by rwa [Path.route, if_neg valid.named])⟩
      rcases List.mem_append.mp member with onWay | last
      · exact outside x onWay
      · rw [List.mem_singleton.mp last]
        exact not_isInside_self
    refine ⟨_, ⟨valid.noNul, valid.named, valid.short, reaches, trivial⟩, fun x member => ?_,
      fun segment member => valid.shortNames segment (front.subset member), onRoute ?_, rfl⟩
    · exact onRoute (List.mem_append_left _ (Path.mem_passed_of_front front member))
    · exact Path.foldl_mem_passed_of_front front

/-- A tree of directories was removed: nothing inside the directory is left. -/
structure Removed (d d' : Disk) (p : Path) : Prop where
  workDir : d'.workDir = d.workDir
  gone : d'.workDirGone = true ↔ d.workDirGone = true ∨ TakesWorkDir d.workDir p
  isDirectory : d.isDirectory p = true
  inside : ∀ x, x ≠ p.address d.workDir →
    d'.find? x = if isInside x (p.address d.workDir) then none else d.find? x
  atEnd : ∀ content, d'.find? (p.address d.workDir) ≠ some (.file content)
  isTree : d.IsTree → d'.IsTree

theorem removeTree_eq_ok (removed : d.removeTree p = (.ok (), d')) : Removed d d' p := by
  unfold removeTree at removed
  split at removed
  · cases removed
  · cases removed
  · rename_i a found
    obtain ⟨-, -, -, rfl, isDir⟩ := lookup_eq_ok_iff.mp found
    have isDirectory : d.isDirectory p = true := by rw [Disk.isDirectory, found]
    obtain ⟨valid, reaches, dirs⟩ := isDirectory_iff.mp isDirectory
    have isOpen := exists_parentAddress_clear_iff valid dirs
    dsimp only at removed
    split at removed
    · rename_i closed
      cases removed
      rw [closed] at isOpen
      refine ⟨rfl, ?_, isDirectory, fun x _ => find?_clear, fun content => ?_, .clear⟩
      · rw [clear, TakesWorkDir, Bool.or_eq_true]
        refine or_congr_right ⟨.inl, fun takes => takes.resolve_right fun straight => ?_⟩
        obtain ⟨same, outside⟩ := straight
        have reachesStill : (d.clear (p.address d.workDir)).Reaches p := by
          rw [Reaches, clear, ← same, not_isInside_self, Bool.or_false]
          exact reaches
        simpa using isOpen.mpr ⟨reachesStill, outside⟩
      · rw [find?_clear, not_isInside_self, isDir]
        simp
    · cases removed
    · rename_i around found
      have straight := (isOpen.mp ⟨around, found⟩).2
      split at removed
      · cases removed
      · cases removed
      · cases removed
      · cases removed
        refine ⟨rfl, ?_, isDirectory, fun x different => ?_, fun content => ?_, .erase_clear⟩
        · rw [erase, clear, TakesWorkDir, Bool.or_eq_true, Bool.or_eq_true, or_assoc, beq_iff_eq,
            and_iff_left straight]
        · rw [find?_erase_of_ne different, find?_clear]
        · exact find?_erase_ne_file

/-- A directory was made anew: the addresses on its way are directories, nothing else is left inside
it if it was there before, and all other entries are as they were. -/
structure Remade (d d' : Disk) (p : Path) : Prop where
  workDir : d'.workDir = d.workDir
  gone : d'.workDirGone = true ↔
    d.workDirGone = true ∨ d.isDirectory p = true ∧ TakesWorkDir d.workDir p
  isDirectory : p.text ≠ "" → d'.isDirectory p = true
  onWay : ∀ x ∈ p.route d.workDir, ∀ content, d.find? x ≠ some (.file content)
  find? : ∀ x, d'.find? x = if x ∈ p.route d.workDir then some .directory
    else if d.isDirectory p = true ∧ isInside x (p.address d.workDir) = true then none
    else d.find? x
  isTree : d.IsTree → d'.IsTree

theorem route_of_blank (blank : p.text = "") {workDir : Address} : p.route workDir = [] := by
  rw [Path.route, if_pos blank]

theorem not_isDirectory_of_blank (blank : p.text = "") : ¬ d.isDirectory p = true := by
  intro isDirectory
  exact (isDirectory_iff.mp isDirectory).1.named blank

theorem Remade.of_blank (blank : p.text = "") : Remade d d p where
  workDir := rfl
  gone := by simp [not_isDirectory_of_blank blank]
  isDirectory named := absurd blank named
  onWay x member := by
    rw [route_of_blank blank] at member
    exact absurd member List.not_mem_nil
  find? x := by
    have notDirectory := not_isDirectory_of_blank (d := d) blank
    rw [route_of_blank blank, if_neg List.not_mem_nil, if_neg fun both => notDirectory both.1]
  isTree := id

theorem Made.isDir {x : Address} (made : Made d d' p) (member : x ∈ p.route d.workDir) : d'.IsDir x :=
  (isDirectory_iff.mp made.isDirectory).2.2 x (made.workDir ▸ member)

theorem Made.remade (made : Made d d' p) (absent : d.isThere p = false) : Remade d d' p := by
  have notDirectory : ¬ d.isDirectory p = true := by
    intro isDirectory
    obtain ⟨valid, reaches, dirs⟩ := isDirectory_iff.mp isDirectory
    have there : d.isThere p = true := by
      have atEnd : d.IsDir (p.address d.workDir) := dirs _ (by simp [Path.route, valid.named])
      have onWay : ∀ x ∈ p.trail d.workDir, d.IsDir x :=
        fun x member => dirs x (Path.trail_subset_route valid.named member)
      exact isThere_iff.mpr ⟨valid, reaches, onWay, atEnd.isSome⟩
    rw [absent] at there
    contradiction
  refine ⟨made.workDir, by simp [made.gone, notDirectory], fun _ => made.isDirectory,
    fun x member content isFile => ?_, fun x => ?_, made.isTree⟩
  · rcases made.changed x with kept | ⟨-, free, -⟩
    · have isDir := made.isDir member
      rw [IsDir, kept, isFile] at isDir
      exact absurd isDir (by simp)
    · rw [free] at isFile
      contradiction
  · by_cases member : x ∈ p.route d.workDir
    · rw [if_pos member]
      exact made.isDir member
    · rw [if_neg member, if_neg fun both => notDirectory both.1]
      rcases made.changed x with kept | ⟨onWay, -, -⟩
      · exact kept
      · exact absurd onWay member

theorem Removed.remade {middle : Disk} (removed : Removed d middle p) (made : Made middle d' p) :
    Remade d d' p := by
  obtain ⟨valid, -, dirs⟩ := isDirectory_iff.mp removed.isDirectory
  have sameWay : p.route middle.workDir = p.route d.workDir := by rw [removed.workDir]
  refine ⟨made.workDir.trans removed.workDir, ?_, fun _ => made.isDirectory, ?_, fun x => ?_,
    fun tree => made.isTree (removed.isTree tree)⟩
  · rw [made.gone, removed.gone, and_iff_right removed.isDirectory]
  · intro x member content isFile
    have isDir := dirs x member
    rw [IsDir, isFile] at isDir
    exact absurd isDir (by simp)
  · by_cases member : x ∈ p.route d.workDir
    · rw [if_pos member]
      exact made.isDir (sameWay ▸ member)
    · rw [if_neg member]
      have different : x ≠ p.address d.workDir := by
        intro same
        subst same
        exact member (by simp [Path.route, valid.named])
      rcases made.changed x with kept | ⟨onWay, -, -⟩
      · rw [kept, removed.inside x different]
        simp [removed.isDirectory]
      · exact absurd (sameWay ▸ onWay) member

end SpecTest.Disk
