import SpecTest.Proofs.Path.Route

/-!
What a file system has at each address after its entries were changed.
-/

namespace SpecTest.Disk

variable {d : Disk} {a x : Address} {e : Entry}

def IsDir (d : Disk) (a : Address) : Prop := d.find? a = some .directory

instance : Decidable (d.IsDir a) := inferInstanceAs (Decidable (d.find? a = some .directory))

theorem lookup_filter {α β : Type} [BEq α] [LawfulBEq α] (keep : α → Bool) (key : α)
    (entries : List (α × β)) :
    (entries.filter fun entry => keep entry.1).lookup key =
      if keep key then entries.lookup key else none := by
  induction entries with
  | nil => simp
  | cons entry rest ih =>
      obtain ⟨name, value⟩ := entry
      by_cases same : key = name
      · subst same
        by_cases kept : keep key = true
        · simp [kept]
        · simp [kept, ih]
      · have different : (key == name) = false := by simpa using same
        by_cases kept : keep name = true
        · simp [kept, List.lookup_cons, different, ih]
        · simp [kept, List.lookup_cons, different, ih]

theorem find?_of_ne_nil (named : x ≠ []) : d.find? x = d.entries.lookup x := by
  rw [find?, if_neg (by simpa using named)]

theorem find?_put (named : a ≠ []) : (d.put a e).find? x = if x = a then some e else d.find? x := by
  by_cases root : x = []
  · rw [root, if_neg (Ne.symm named)]
    rfl
  · rw [find?_of_ne_nil root, find?_of_ne_nil root, put, List.lookup_append,
      lookup_filter (fun other => other != a)]
    by_cases same : x = a
    · simp [same]
    · have different : (x == a) = false := by simpa using same
      simp [same, List.lookup_cons, different]

theorem not_isInside_nil : isInside [] a = false := by
  cases a <;> rfl

theorem not_isInside_self : isInside a a = false := by
  simp [isInside]

theorem find?_clear : (d.clear a).find? x = if isInside x a then none else d.find? x := by
  by_cases root : x = []
  · rw [root, not_isInside_nil]
    rfl
  · rw [find?_of_ne_nil root, find?_of_ne_nil root, clear,
      lookup_filter (fun other => !isInside other a)]
    cases isInside x a <;> rfl

theorem find?_erase_of_ne (different : x ≠ a) : (d.erase a).find? x = d.find? x := by
  by_cases root : x = []
  · rw [root]
    rfl
  · rw [find?_of_ne_nil root, find?_of_ne_nil root, erase, lookup_filter (fun other => other != a)]
    simp [different]

theorem find?_erase_self (named : a ≠ []) : (d.erase a).find? a = none := by
  rw [find?_of_ne_nil named, erase, lookup_filter (fun other => other != a)]
  simp

theorem find?_erase_ne_file {content : String} : (d.erase a).find? a ≠ some (.file content) := by
  by_cases root : a = []
  · rw [root]
    simp [find?]
  · rw [find?_erase_self root]
    simp

/-- Is every entry in a directory? -/
def IsTree (d : Disk) : Prop :=
  ∀ around name, (d.find? (around ++ [name])).isSome → d.IsDir around

theorem isTree_of_entries (each : ∀ entry ∈ d.entries, d.IsDir entry.1.dropLast) : d.IsTree := by
  intro around name present
  rw [find?_of_ne_nil (by simp), List.lookup_isSome_iff] at present
  obtain ⟨entry, listed, same⟩ := present
  have isDir := each entry listed
  rwa [← eq_of_beq same, List.dropLast_concat] at isDir

theorem IsDir.isSome (isDir : d.IsDir a) : (d.find? a).isSome := by
  rw [isDir]
  rfl

theorem exists_file (present : (d.find? a).isSome) (notDir : ¬ d.IsDir a) :
    ∃ text, d.find? a = some (.file text) := by
  obtain ⟨e, found⟩ := Option.isSome_iff_exists.mp present
  cases e with
  | file text => exact ⟨text, found⟩
  | directory => exact absurd found notDir

theorem isInside_iff : isInside a x = true ↔ x <+: a ∧ a ≠ x := by
  simp [isInside]

theorem isInside_concat_iff {name : String} : isInside (a ++ [name]) x = true ↔ x <+: a := by
  rw [isInside_iff, List.prefix_concat_iff]
  constructor
  · intro inside
    obtain ⟨same | front, different⟩ := inside
    · exact absurd same.symm different
    · exact front
  · intro front
    refine ⟨.inr front, ?_⟩
    intro same
    rw [← same] at front
    exact absurd front.length_le (by simp)

theorem isInside_append_of_isInside (inside : isInside a x = true) (rest : Address) :
    isInside (a ++ rest) x = true := by
  obtain ⟨front, different⟩ := isInside_iff.mp inside
  refine isInside_iff.mpr ⟨front.trans (List.prefix_append _ _), fun same => ?_⟩
  have shorter : x.length ≤ a.length := front.length_le
  have sameLength := congrArg List.length same
  rw [List.length_append] at sameLength
  exact different (front.eq_of_length (by omega)).symm

namespace IsTree

theorem isDir_of_front (tree : d.IsTree) (present : (d.find? a).isSome) (front : x <+: a)
    (shorter : x ≠ a) : d.IsDir x := by
  obtain ⟨rest, rfl⟩ := front
  induction rest generalizing x with
  | nil => simp at shorter
  | cons name rest ih =>
      rw [List.append_cons] at present
      by_cases last : rest = []
      · rw [last, List.append_nil] at present
        exact tree x name present
      · exact tree x name (ih present (by simpa using last)).isSome

theorem put {around : Address} {name : String} (tree : d.IsTree) (isDir : d.IsDir around)
    (free : ¬ d.IsDir (around ++ [name])) : (d.put (around ++ [name]) e).IsTree := by
  intro x last present
  rw [IsDir, find?_put (by simp)]
  rw [find?_put (by simp)] at present
  by_cases same : x ++ [last] = around ++ [name]
  · obtain ⟨rfl, -⟩ := List.append_inj' same rfl
    rw [if_neg (by simp)]
    exact isDir
  · rw [if_neg same] at present
    have isDir := tree x last present
    have other : x ≠ around ++ [name] := by
      intro same
      subst same
      exact free isDir
    rw [if_neg other]
    exact isDir

theorem clear (tree : d.IsTree) : (d.clear a).IsTree := by
  intro x last present
  rw [IsDir, find?_clear]
  rw [find?_clear] at present
  by_cases inside : isInside (x ++ [last]) a = true
  · rw [if_pos inside] at present
    contradiction
  · rw [if_neg inside] at present
    rw [if_neg fun insideToo => inside (isInside_append_of_isInside insideToo [last])]
    exact tree x last present

/-- A directory can be removed when nothing is in it any more. -/
theorem erase_clear (tree : d.IsTree) : ((d.clear a).erase a).IsTree := by
  intro x last present
  have notErased : x ++ [last] ≠ a := by
    intro same
    subst same
    rw [find?_erase_self (by simp)] at present
    contradiction
  rw [find?_erase_of_ne notErased] at present
  have isDir := tree.clear x last present
  rw [IsDir, find?_erase_of_ne]
  · exact isDir
  · intro same
    subst same
    have inside : isInside (x ++ [last]) x = true := isInside_iff.mpr ⟨List.prefix_append _ _, by simp⟩
    rw [find?_clear, if_pos inside] at present
    contradiction

end IsTree

end SpecTest.Disk
