import SpecTest.Proofs.Path.Plain
import SpecTest.Proofs.Report.Directories

/-!
Which files are still there after further directories were made anew.

Only the directories count for that, so it is told from them alone, without the files.
-/

namespace SpecTest.Report

open SpecTest.Disk

variable {d d' : Disk} {a x : Address} {dir p : Path} {workDir : Address} {dirs : Address → Prop}
  {files : List (String × String)}

/-- Is the address cleared when a directory is made anew, where these are the directories?  One that
cannot be followed to yet is only made. -/
def Clears (workDir : Address) (dirs : Address → Prop) (dir : Path) (a : Address) : Prop :=
  dir.text ≠ "" ∧ (∀ x ∈ dir.route workDir, dirs x) ∧ isInside a (dir.address workDir) = true

/-- Does the working directory go when a directory is made anew, where these are the directories? -/
def Unseats (workDir : Address) (dirs : Address → Prop) (dir : Path) : Prop :=
  dir.text ≠ "" ∧ (∀ x ∈ dir.route workDir, dirs x) ∧ TakesWorkDir workDir dir

def renewed (workDir : Address) (dirs : Address → Prop) (dir : Path) (a : Address) : Prop :=
  a ∈ dir.route workDir ∨ dirs a ∧ ¬ Clears workDir dirs dir a

/-- The directories that there are after others were made anew one after the other. -/
def renewedAll (workDir : Address) : (Address → Prop) → List Path → Address → Prop
  | dirs, [] => dirs
  | dirs, dir :: later => renewedAll workDir (renewed workDir dirs dir) later

/-- Is the address cleared by one of the directories that are made anew one after the other? -/
def Cleared (workDir : Address) (a : Address) : (Address → Prop) → List Path → Prop
  | _, [] => False
  | dirs, dir :: later => Clears workDir dirs dir a ∨ Cleared workDir a (renewed workDir dirs dir) later

/-- Does the working directory go with one of the directories that are made anew one after the other? -/
def Unseated (workDir : Address) : (Address → Prop) → List Path → Prop
  | _, [] => False
  | dirs, dir :: later => Unseats workDir dirs dir ∨ Unseated workDir (renewed workDir dirs dir) later

/-- Can a file be followed to still, after directories were made anew one after the other?  A path that
starts at the working directory is lost with it, also where another one takes its place. -/
def Spared (workDir : Address) (file : Path) : (Address → Prop) → List Path → Prop
  | dirs, [] => ∀ x ∈ file.trail workDir, dirs x
  | dirs, dir :: later => ¬ Clears workDir dirs dir (file.address workDir) ∧
      (file.isAbsolute = true ∨ ¬ Unseats workDir dirs dir) ∧
      Spared workDir file (renewed workDir dirs dir) later

theorem spared_iff {file : Path} {places : List Path} : Spared workDir file dirs places ↔
    ¬ Cleared workDir (file.address workDir) dirs places ∧
      (file.isAbsolute = true ∨ ¬ Unseated workDir dirs places) ∧
      ∀ x ∈ file.trail workDir, renewedAll workDir dirs places x := by
  induction places generalizing dirs with
  | nil => simp [Spared, Cleared, Unseated, renewedAll]
  | cons dir later ih =>
      rw [Spared, Cleared, Unseated, renewedAll, ih, not_or, not_or, or_and_left]
      constructor
      · intro spared
        obtain ⟨first, seated, later, seatedLater, onWay⟩ := spared
        exact ⟨⟨first, later⟩, ⟨seated, seatedLater⟩, onWay⟩
      · intro spared
        obtain ⟨⟨first, later⟩, ⟨seated, seatedLater⟩, onWay⟩ := spared
        exact ⟨first, seated, later, seatedLater, onWay⟩

section Remaking

theorem isDirectory_iff_of_remade (remade : Remade d d' dir) :
    d.isDirectory dir = true ↔ dir.text ≠ "" ∧ ∀ x ∈ dir.route d.workDir, d.IsDir x := by
  rw [isDirectory_iff]
  constructor
  · intro isDirectory
    obtain ⟨valid, -, present⟩ := isDirectory
    exact ⟨valid.named, present⟩
  · intro both
    obtain ⟨named, present⟩ := both
    obtain ⟨valid, reaches, -⟩ := isDirectory_iff.mp (remade.isDirectory named)
    refine ⟨valid, reaches.imp_right fun stays => Bool.eq_false_iff.mpr fun gone => ?_, present⟩
    rw [remade.gone.mpr (.inl gone)] at stays
    contradiction

theorem clears_iff (remade : Remade d d' dir) :
    d.isDirectory dir = true ∧ isInside a (dir.address d.workDir) = true ↔
      Clears d.workDir d.IsDir dir a := by
  rw [isDirectory_iff_of_remade remade, Clears, and_assoc]

theorem reaches_remade_iff (remade : Remade d d' dir) :
    d'.Reaches p ↔ d.Reaches p ∧ (p.isAbsolute = true ∨ ¬ Unseats d.workDir d.IsDir dir) := by
  have unseats : d.isDirectory dir = true ∧ TakesWorkDir d.workDir dir ↔
      Unseats d.workDir d.IsDir dir := by
    rw [isDirectory_iff_of_remade remade, Unseats, and_assoc]
  rw [Reaches, Reaches, ← or_and_left, ← Bool.not_eq_true, remade.gone, unseats, not_or,
    Bool.not_eq_true]

theorem isDir_remade (remade : Remade d d' dir) : d'.IsDir = renewed d.workDir d.IsDir dir := by
  funext a
  rw [renewed, ← clears_iff remade, IsDir, remade.find?]
  by_cases onWay : a ∈ dir.route d.workDir
  · simp [onWay]
  · by_cases cleared : d.isDirectory dir = true ∧ isInside a (dir.address d.workDir) = true
    · simp [onWay, cleared]
    · simp [onWay, cleared, IsDir]

theorem file_remade_iff (remade : Remade d d' dir) {text : String} :
    d'.find? a = some (.file text) ↔
      d.find? a = some (.file text) ∧ ¬ Clears d.workDir d.IsDir dir a := by
  rw [← clears_iff remade, remade.find?]
  by_cases onWay : a ∈ dir.route d.workDir
  · simp [onWay, remade.onWay a onWay]
  · by_cases cleared : d.isDirectory dir = true ∧ isInside a (dir.address d.workDir) = true
    · simp [onWay, cleared]
    · simp [onWay, cleared]

end Remaking

section Refilling

theorem Refilled.reaches_iff (refilled : Refilled d d' dir files) :
    d'.Reaches p ↔ d.Reaches p ∧ (p.isAbsolute = true ∨ ¬ Unseats d.workDir d.IsDir dir) := by
  obtain ⟨middle, remade, inOrder⟩ := refilled
  rw [← reaches_remade_iff remade, Reaches, Reaches, (WrittenAll.of_writeAll inOrder).gone]

theorem Refilled.reaches {f : String × String} (refilled : Refilled d d' dir files) (member : f ∈ files) :
    d'.Reaches (dir.child f.1) := by
  obtain ⟨middle, -, inOrder⟩ := refilled
  have all := WrittenAll.of_writeAll inOrder
  have reaches : middle.Reaches (dir.child f.1) := all.reaches (dir.child f.1, f.2) (mem_placed member)
  rwa [Reaches, ← all.gone] at reaches

theorem isDir_refilled (refilled : Refilled d d' dir files) :
    d'.IsDir = renewed d.workDir d.IsDir dir := by
  obtain ⟨middle, remade, inOrder⟩ := refilled
  rw [← isDir_remade remade]
  funext a
  exact propext ((WrittenAll.of_writeAll inOrder).isDir_iff a)

theorem Refilled.isDirectory (refilled : Refilled d d' dir files) (named : dir.text ≠ "") :
    d'.isDirectory dir = true := by
  obtain ⟨middle, remade, inOrder⟩ := refilled
  obtain ⟨valid, reaches, present⟩ := isDirectory_iff.mp (remade.isDirectory named)
  have all := WrittenAll.of_writeAll inOrder
  rw [isDirectory_iff, Reaches, all.gone, all.workDir]
  exact ⟨valid, reaches, fun x onWay => (all.isDir_iff x).mpr (present x onWay)⟩

def Avoids (workDir : Address) (dir : Path) (files : List (String × String)) (a : Address) : Prop :=
  ∀ f ∈ files, (dir.child f.1).address workDir ≠ a

theorem file_refilled_iff (refilled : Refilled d d' dir files) (avoids : Avoids d.workDir dir files a)
    {text : String} : d'.find? a = some (.file text) ↔
      d.find? a = some (.file text) ∧ ¬ Clears d.workDir d.IsDir dir a := by
  obtain ⟨middle, remade, inOrder⟩ := refilled
  have elsewhere : ∀ f ∈ placed dir files, a ≠ f.1.address middle.workDir := by
    rw [placed, List.forall_mem_map, remade.workDir]
    exact fun f member => (avoids f member).symm
  rw [(WrittenAll.of_writeAll inOrder).kept a elsewhere]
  exact file_remade_iff remade

end Refilling

section RefillingAll

variable {fillings : List (Path × List (String × String))}

theorem isDir_refilledAll (refilled : RefilledAll d d' fillings) :
    d'.IsDir = renewedAll d.workDir d.IsDir (fillings.map (·.1)) := by
  induction fillings generalizing d with
  | nil =>
      cases refilled
      rfl
  | cons filling later ih =>
      obtain ⟨middle, first, rest⟩ := refilled
      rw [ih rest, first.workDir, isDir_refilled first, List.map_cons, renewedAll]

theorem reaches_refilledAll_iff (refilled : RefilledAll d d' fillings) :
    d'.Reaches p ↔ d.Reaches p ∧
      (p.isAbsolute = true ∨ ¬ Unseated d.workDir d.IsDir (fillings.map (·.1))) := by
  induction fillings generalizing d with
  | nil =>
      cases refilled
      simp [Unseated]
  | cons filling later ih =>
      obtain ⟨middle, first, rest⟩ := refilled
      rw [ih rest, first.workDir, isDir_refilled first, first.reaches_iff, List.map_cons, Unseated, not_or,
        or_and_left, and_assoc]

theorem file_refilledAll_iff (refilled : RefilledAll d d' fillings)
    (avoids : ∀ filling ∈ fillings, Avoids d.workDir filling.1 filling.2 a) {text : String} :
    d'.find? a = some (.file text) ↔
      d.find? a = some (.file text) ∧ ¬ Cleared d.workDir a d.IsDir (fillings.map (·.1)) := by
  induction fillings generalizing d with
  | nil =>
      cases refilled
      simp [Cleared]
  | cons filling later ih =>
      obtain ⟨middle, first, rest⟩ := refilled
      obtain ⟨avoidsFirst, avoidsLater⟩ := List.forall_mem_cons.mp avoids
      rw [ih rest (first.workDir ▸ avoidsLater), first.workDir, isDir_refilled first,
        file_refilled_iff first avoidsFirst, List.map_cons, Cleared, not_or, and_assoc]

/-- A file outlasts the directories that are made anew after it exactly where it is spared. -/
theorem readText_refilledAll_iff (refilled : RefilledAll d d' fillings)
    (avoids : ∀ filling ∈ fillings, Avoids d.workDir filling.1 filling.2 (p.address d.workDir))
    (valid : p.Valid) (reaches : d.Reaches p) {text : String} :
    d'.readText p = .ok text ↔ d.find? (p.address d.workDir) = some (.file text) ∧
      Spared d.workDir p d.IsDir (fillings.map (·.1)) := by
  rw [readText_eq_ok_iff, refilled.workDir, file_refilledAll_iff refilled avoids, spared_iff,
    ← isDir_refilledAll refilled, reaches_refilledAll_iff refilled]
  constructor
  · intro read
    obtain ⟨-, ⟨-, seated⟩, onWay, found, notCleared⟩ := read
    exact ⟨found, notCleared, seated, onWay⟩
  · intro spared
    obtain ⟨found, notCleared, seated, onWay⟩ := spared
    exact ⟨valid, ⟨reaches, seated⟩, onWay, found, notCleared⟩

end RefillingAll

theorem readText_child_iff {middle : Disk} {f : String × String}
    {fillings : List (Path × List (String × String))} (written : Refilled d middle dir files)
    (later : RefilledAll middle d' fillings) (member : f ∈ files)
    (avoids : ∀ filling ∈ fillings,
      Avoids d.workDir filling.1 filling.2 ((dir.child f.1).address d.workDir))
    (text : String) : d'.readText (dir.child f.1) = .ok text ↔ middle.readText (dir.child f.1) = .ok text ∧
      Spared d.workDir (dir.child f.1) (renewed d.workDir d.IsDir dir) (fillings.map (·.1)) := by
  have valid := written.valid member
  have here : middle.readText (dir.child f.1) = .ok text ↔
      middle.find? ((dir.child f.1).address d.workDir) = some (.file text) :=
    written.readText_eq_ok_iff member
  rw [readText_refilledAll_iff later (written.workDir ▸ avoids) valid (written.reaches member),
    written.workDir, isDir_refilled written, here]

section PlainPaths

/-- A plain path does not come from inside the directory that it leads to. -/
theorem not_isInside_of_mem_route (plain : dir.Plain) (onWay : x ∈ dir.route workDir) :
    isInside x (dir.address workDir) = false := by
  refine Bool.eq_false_iff.mpr fun inside => ?_
  obtain ⟨behind, different⟩ := isInside_iff.mp inside
  have before := Path.prefix_of_mem_route plain onWay
  exact different (before.eq_of_length (Nat.le_antisymm before.length_le behind.length_le))

/-- In a tree, a directory that a path to a file goes through is there, and is cleared. -/
theorem clears_iff_of_plain (tree : d.IsTree) (plain : dir.Plain) (present : (d.find? a).isSome) :
    Clears d.workDir d.IsDir dir a ↔
      dir.text ≠ "" ∧ isInside a (dir.address d.workDir) = true := by
  constructor
  · exact fun ⟨named, _, inside⟩ => ⟨named, inside⟩
  · intro inIt
    obtain ⟨named, inside⟩ := inIt
    obtain ⟨front, different⟩ := isInside_iff.mp inside
    refine ⟨named, fun x member => ?_, inside⟩
    have onWay := Path.prefix_of_mem_route plain member
    refine tree.isDir_of_front present (onWay.trans front) fun same => different ?_
    exact (front.eq_of_length (Nat.le_antisymm front.length_le (same ▸ onWay.length_le))).symm

/-- In a tree, a directory that is made anew holds nothing but what is written there. -/
theorem mem_of_file_inside (tree : d.IsTree) (refilled : Refilled d d' dir files) (plain : dir.Plain)
    (named : dir.text ≠ "") (inside : isInside a (dir.address d.workDir) = true) {text : String}
    (there : d'.find? a = some (.file text)) : ∃ f ∈ files, (dir.child f.1).address d.workDir = a := by
  refine Classical.byContradiction fun elsewhere => ?_
  have avoids : Avoids d.workDir dir files a := fun f member here => elsewhere ⟨f, member, here⟩
  obtain ⟨before, notCleared⟩ := (file_refilled_iff refilled avoids).mp there
  exact notCleared ((clears_iff_of_plain tree plain (by rw [before]; rfl)).mpr ⟨named, inside⟩)

/-- A file at the end of a plain path from the working directory is cleared where that directory goes. -/
theorem clears_of_unseats (plain : p.Plain) (relative : p.isAbsolute = false) {text : String}
    (found : d.find? (p.address d.workDir) = some (.file text)) (unseats : Unseats d.workDir d.IsDir dir) :
    Clears d.workDir d.IsDir dir (p.address d.workDir) := by
  obtain ⟨named, present, takes⟩ := unseats
  have below : d.workDir <+: p.address d.workDir := by
    have front : p.base d.workDir <+: p.address d.workDir := Path.prefix_foldl_turn plain
    rwa [Path.base, relative, if_neg Bool.false_ne_true] at front
  refine ⟨named, present, ?_⟩
  rcases takes with inside | ⟨same, -⟩
  · obtain ⟨rest, whole⟩ := below
    rw [← whole]
    exact isInside_append_of_isInside inside rest
  · refine isInside_iff.mpr ⟨same ▸ below, fun atEnd => ?_⟩
    have isDir : d.IsDir (dir.address d.workDir) := present _ (by simp [Path.route, named])
    rw [IsDir, ← atEnd, found] at isDir
    cases isDir

/-- On plain paths, a file is spared exactly where it lies in none of the directories. -/
theorem spared_iff_of_plain {fillings : List (Path × List (String × String))} {text : String}
    (tree : d.IsTree) (refilled : RefilledAll d d' fillings) (plain : p.Plain)
    (plainDirs : ∀ other ∈ fillings.map (·.1), other.Plain)
    (avoids : ∀ filling ∈ fillings, Avoids d.workDir filling.1 filling.2 (p.address d.workDir))
    (read : d.readText p = .ok text) :
    Spared d.workDir p d.IsDir (fillings.map (·.1)) ↔
      ∀ filling ∈ fillings, filling.1.text ≠ "" →
        isInside (p.address d.workDir) (filling.1.address d.workDir) = false := by
  -- A file that is not inside the first directory can still be read when that was made anew.
  induction fillings generalizing d with
  | nil =>
      obtain ⟨-, -, onWay, -⟩ := readText_eq_ok_iff.mp read
      simpa [Spared] using onWay
  | cons filling later ih =>
      obtain ⟨dir, files⟩ := filling
      obtain ⟨middle, first, rest⟩ := refilled
      obtain ⟨avoidsFirst, avoidsLater⟩ := List.forall_mem_cons.mp avoids
      obtain ⟨valid, reaches, onWay, found⟩ := readText_eq_ok_iff.mp read
      rw [List.map_cons, List.forall_mem_cons] at plainDirs
      obtain ⟨plainFirst, plainLater⟩ := plainDirs
      have seated (stays : ¬ Clears d.workDir d.IsDir dir (p.address d.workDir)) :
          p.isAbsolute = true ∨ ¬ Unseats d.workDir d.IsDir dir := by
        cases relative : p.isAbsolute with
        | true => exact .inl rfl
        | false => exact .inr fun unseats => stays (clears_of_unseats plain relative found unseats)
      rw [List.map_cons, Spared, List.forall_mem_cons, and_congr_right fun stays => and_iff_right (seated stays),
        clears_iff_of_plain tree plainFirst (by rw [found]; rfl), not_and, Bool.not_eq_true]
      refine and_congr_right fun notInside => ?_
      have notCleared {x : Address} (front : x <+: p.address d.workDir) :
          ¬ Clears d.workDir d.IsDir dir x := by
        intro clears
        obtain ⟨named, -, inside⟩ := clears
        obtain ⟨rest, whole⟩ := front
        have deeper := isInside_append_of_isInside inside rest
        rw [whole, notInside named] at deeper
        contradiction
      have readStill : middle.readText p = .ok text := by
        have reachesStill : middle.Reaches p :=
          first.reaches_iff.mpr ⟨reaches, seated (notCleared (List.prefix_refl _))⟩
        refine readText_eq_ok_iff.mpr ⟨valid, reachesStill, fun x member => ?_, ?_⟩
        · rw [first.workDir] at member
          rw [isDir_refilled first]
          exact .inr ⟨onWay x member, notCleared (Path.prefix_of_mem_trail plain member)⟩
        · rw [first.workDir]
          exact (file_refilled_iff first avoidsFirst).mpr ⟨found, notCleared (List.prefix_refl _)⟩
      rw [← isDir_refilled first, ← first.workDir]
      exact ih (first.isTree tree) rest plainLater (first.workDir ▸ avoidsLater) readStill

/-- Is the directory the other one, or around it?  The empty path is that of none. -/
def Around (workDir : Address) (dir other : Path) : Prop :=
  dir.text ≠ "" ∧ dir.address workDir <+: other.address workDir

/-- A file in a directory is spared exactly where no later directory is around that one. -/
theorem spared_child_iff_of_plain {middle : Disk} {f : String × String} {stem ending : String}
    {fillings : List (Path × List (String × String))} (tree : d.IsTree)
    (written : Refilled d middle dir files) (later : RefilledAll middle d' fillings) (member : f ∈ files)
    (plain : dir.Plain) (plainDirs : ∀ other ∈ fillings.map (·.1), other.Plain)
    (names : Path.NamesEntries ending) (noSlash : '/' ∉ stem.toList) (spelled : f.1 = stem ++ ending)
    (avoids : ∀ filling ∈ fillings,
      Avoids d.workDir filling.1 filling.2 ((dir.child f.1).address d.workDir)) :
    Spared d.workDir (dir.child f.1) (renewed d.workDir d.IsDir dir) (fillings.map (·.1)) ↔
      ∀ other ∈ fillings.map (·.1), ¬ Around d.workDir other dir := by
  have place : (dir.child f.1).address d.workDir = dir.address d.workDir ++ [f.1] := by
    rw [spelled]
    exact Path.address_child_of_ending names noSlash
  obtain ⟨text, read⟩ := written.hasFile member
  have plainFile : (dir.child f.1).Plain := by
    rw [spelled]
    exact Path.plain_child_of_ending plain names noSlash
  have spared := spared_iff_of_plain (written.isTree tree) later plainFile plainDirs
    (written.workDir ▸ avoids) read
  rw [written.workDir, isDir_refilled written] at spared
  rw [spared, List.forall_mem_map, place]
  refine forall_congr' fun filling => forall_congr' fun _ => ?_
  rw [Around, not_and, ← Bool.not_eq_true, isInside_concat_iff]

end PlainPaths

end SpecTest.Report
