import SpecTest.Proofs.Path.Spelling

/-!
The directory of a path: it has the parts of the path but for the last one, so spellings of one path have
spellings of one directory.
-/

namespace SpecTest.Path

variable {p q : Path} {segment : String}

/-- The directory in which the entry of the path lies: that of a path without an entry is the empty one. -/
def directory (p : Path) : Path := p.parent?.getD ⟨""⟩

theorem partOf?_of_idle {first : Bool} (idle : ¬ segmentCounts first segment = true) :
    partOf? segment = none := by
  simp only [segmentCounts, Bool.not_eq_true', Bool.not_eq_false, Bool.or_eq_true, Bool.and_eq_true,
    beq_iff_eq] at idle
  exact partOf?_eq_none_iff.mpr (idle.imp_right And.left)

theorem filterMap_dropIdle (relative : Bool) (segments : List String) :
    (dropIdle relative segments).filterMap partOf? = segments.filterMap partOf? := by
  induction segments with
  | nil => rfl
  | cons segment before ih =>
      rw [dropIdle]
      split
      · rfl
      · rename_i idle
        rw [ih, List.filterMap_cons_none (partOf?_of_idle idle)]

theorem segmentCounts_of_dropIdle {relative : Bool} {segments before : List String} {last : String}
    (cut : dropIdle relative segments = last :: before) :
    segmentCounts (relative && before.isEmpty) last = true := by
  induction segments with
  | nil => contradiction
  | cons segment rest ih =>
      rw [dropIdle] at cut
      split at cut
      · cases cut
        assumption
      · exact ih cut

/-- Only a `.` in front of everything is kept without being a part. -/
theorem alone_of_dropIdle {relative : Bool} {segments before : List String} {last : String}
    (cut : dropIdle relative segments = last :: before) (uncounted : partOf? last = none) :
    relative = true ∧ before = [] := by
  have counts := segmentCounts_of_dropIdle cut
  rcases partOf?_eq_none_iff.mp uncounted with rfl | rfl
  · exact absurd counts (by simp [segmentCounts])
  · simpa [segmentCounts] using counts

/-- The segments behind the slash with which the path starts, if it does. -/
def ownSegments (p : Path) : List String := if p.isAbsolute then p.segments.drop 1 else p.segments

theorem filterMap_ownSegments (p : Path) : p.ownSegments.filterMap partOf? = p.counted := by
  rw [ownSegments]
  split
  · rename_i absolute
    obtain ⟨text, -, cut⟩ := segments_absolute absolute
    rw [counted, cut]
    rfl
  · rfl

theorem not_slash_of_mem_ownSegments (member : segment ∈ p.ownSegments) : '/' ∉ segment.toList := by
  rw [ownSegments] at member
  split at member
  · exact not_slash_of_mem_segments (List.mem_of_mem_drop member)
  · exact not_slash_of_mem_segments member

theorem dropIdle_front {relative : Bool} {before : List String} {last : String}
    (cut : dropIdle relative p.ownSegments.reverse = last :: before) :
    (dropIdle relative before).reverse <+: p.ownSegments := by
  have behind : last :: before <:+ p.ownSegments.reverse := cut ▸ dropIdle_suffix _ _
  rw [← List.reverse_suffix, List.reverse_reverse]
  exact (dropIdle_suffix _ before).trans ((List.suffix_cons last before).trans behind)

theorem parent?_of_nil (cut : dropIdle (!p.isAbsolute) p.ownSegments.reverse = []) : p.parent? = none := by
  rw [ownSegments] at cut
  simp only [parent?, cut]

theorem parent?_of_cons {before : List String} {last : String}
    (cut : dropIdle (!p.isAbsolute) p.ownSegments.reverse = last :: before) :
    p.parent? = some ⟨(if p.isAbsolute then "/" else "") ++
      "/".intercalate (dropIdle (!p.isAbsolute) before).reverse⟩ := by
  rw [ownSegments] at cut
  simp only [parent?, cut]

/-- A path without parts may have no parent; the parent of any other has the parts but for the last one. -/
theorem parent?_cases (p : Path) :
    (p.parent? = none ∧ p.counted = []) ∨
    ∃ rest, rest <+: p.ownSegments ∧ rest.filterMap partOf? = p.counted.dropLast ∧
      p.parent? = some ⟨(if p.isAbsolute then "/" else "") ++ "/".intercalate rest⟩ ∧
      (p.counted = [] → p.isAbsolute = false ∧ rest = []) := by
  have backwards := filterMap_dropIdle (!p.isAbsolute) p.ownSegments.reverse
  rw [List.filterMap_reverse, filterMap_ownSegments] at backwards
  cases cut : dropIdle (!p.isAbsolute) p.ownSegments.reverse with
  | nil =>
      rw [cut] at backwards
      exact .inl ⟨parent?_of_nil cut, List.reverse_eq_nil_iff.mp backwards.symm⟩
  | cons last before =>
      rw [cut] at backwards
      have found := parent?_of_cons cut
      have front := dropIdle_front cut
      cases stands : partOf? last with
      | some part =>
          rw [List.filterMap_cons_some stands] at backwards
          have whole : p.counted = (before.filterMap partOf?).reverse ++ [part] := by
            rw [← List.reverse_cons, backwards, List.reverse_reverse]
          refine .inr ⟨_, front, ?_, found, fun blank => ?_⟩
          · rw [List.filterMap_reverse, filterMap_dropIdle, whole, List.dropLast_concat]
          · rw [whole] at blank
            exact absurd blank (by simp)
      | none =>
          obtain ⟨relative, rfl⟩ := alone_of_dropIdle cut stands
          rw [List.filterMap_cons_none stands, List.filterMap_nil] at backwards
          refine .inr ⟨_, front, ?_, found, fun _ => ⟨Bool.not_eq_true' _ |>.mp relative, rfl⟩⟩
          rw [List.reverse_eq_nil_iff.mp backwards.symm]
          rfl

/-- The directory has the parts of the path but for the last one. -/
theorem directory_spelling (p : Path) :
    p.directory.isAbsolute = (p.isAbsolute && !p.counted.isEmpty) ∧
      p.directory.counted = p.counted.dropLast := by
  rcases parent?_cases p with ⟨found, blank⟩ | ⟨rest, front, behind, found, idle⟩
  · rw [directory, found, blank, List.isEmpty_nil, Bool.not_true, Bool.and_false]
    exact ⟨rfl, rfl⟩
  · rw [directory, found, Option.getD_some, ← behind]
    have plain : ∀ segment ∈ rest, '/' ∉ segment.toList := fun _ member =>
      not_slash_of_mem_ownSegments (front.subset member)
    cases absolute : p.isAbsolute with
    | true =>
        have named : p.counted.isEmpty = false := by
          rw [List.isEmpty_eq_false_iff]
          intro blank
          exact absurd (idle blank).1 (by simp [absolute])
        rw [if_pos rfl, named, Bool.not_false, Bool.and_true]
        refine ⟨by simp [isAbsolute], ?_⟩
        cases rest with
        | nil => rfl
        | cons segment rest =>
            rw [counted, segments_of_absolute (by simp) plain rfl]
            rfl
    | false =>
        rw [Bool.false_and, if_neg Bool.false_ne_true, String.empty_append]
        cases rest with
        | nil => exact ⟨rfl, rfl⟩
        | cons segment rest =>
            have named : p.text ≠ "" := fun blank => by
              have noParts : p.counted = [] := by rw [counted, Path.segments, blank]; rfl
              exact absurd (idle noParts).2 (by simp)
            rw [ownSegments, absolute, if_neg Bool.false_ne_true] at front
            obtain ⟨sameSegments, relative⟩ : (ofSegments (segment :: rest)).segments = segment :: rest ∧
                ¬ (ofSegments (segment :: rest)).isAbsolute = true :=
              segments_parent_of_relative (by simp [absolute]) named (by simp) front rfl
            exact ⟨Bool.eq_false_iff.mpr relative, congrArg _ sameSegments⟩

theorem Respelled.directory (spelled : Respelled p q) : Respelled p.directory q.directory := by
  obtain ⟨start, behind⟩ := directory_spelling p
  obtain ⟨start', behind'⟩ := directory_spelling q
  rw [respelled_iff, start, start', behind, behind', spelled.sameParts.1, spelled.sameParts.2]
  exact ⟨rfl, rfl⟩

end SpecTest.Path
