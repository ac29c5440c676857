import SpecTest.Coverage.Page
import SpecTest.Proofs.Coverage.Offsets

/-!
Cutting a text at locations: the pieces are the whole text, and each lies where its location says.
-/

namespace SpecTest.Coverage

section Slices

variable {text : List Char} {first second third : Nat}

theorem slice_append_slice (le : first ≤ second) (le' : second ≤ third) :
    slice text first second ++ slice text second third = slice text first third := by
  obtain ⟨size, rfl⟩ := Nat.exists_eq_add_of_le le
  have shorter : text.take (first + size) = (text.take third).take (first + size) := by
    rw [List.take_take, Nat.min_eq_left le']
  rw [slice, slice, slice, shorter, ← List.drop_drop, List.drop_take, Nat.add_sub_cancel_left,
    List.take_append_drop]

theorem take_append_slice (le : first ≤ second) :
    text.take first ++ slice text first second = text.take second := by
  have whole : slice text 0 first ++ slice text first second = slice text 0 second :=
    slice_append_slice (Nat.zero_le first) le
  simpa only [slice, List.drop_zero] using whole

theorem slice_append_drop (le : first ≤ second) :
    slice text first second ++ text.drop second = text.drop first := by
  have whole : text.take first ++ (slice text first second ++ text.drop second) =
      text.take first ++ text.drop first := by
    rw [← List.append_assoc, take_append_slice le, List.take_append_drop, List.take_append_drop]
  exact List.append_cancel_left whole

end Slices

def Mark.source (m : Mark) : List Char := m.gap ++ m.body

variable {file : Path} {text left : List Char} {cursor : Position} {done : Nat} {hit : Hit}
  {hits : List Hit} {marks : List Mark}

/-- What a successful cut at one more location consists of. -/
theorem marksFrom_cons {lines : Lines}
    (cut : marksFrom file text lines cursor done (hit :: hits) = .ok (marks, left)) :
    ∃ start stop rest, hit.location.start.before cursor = false ∧
      lines.offset? hit.location.start = some start ∧ lines.offset? hit.location.finish = some stop ∧
      start ≤ stop ∧
      marksFrom file text lines hit.location.finish stop hits = .ok (rest, left) ∧
      marks = ⟨slice text done start, hit, slice text start stop⟩ :: rest := by
  simp only [marksFrom, Location.startsBefore] at cut
  split at cut
  · contradiction
  · rename_i ordered
    split at cut
    · rename_i start stop foundStart foundStop
      split at cut
      · rename_i le
        cases tail : marksFrom file text lines hit.location.finish stop hits with
        | error failure => rw [tail] at cut; contradiction
        | ok pieces =>
            obtain ⟨rest, leftover⟩ := pieces
            rw [tail] at cut
            cases cut
            exact ⟨start, stop, rest, by simpa using ordered, foundStart, foundStop, le, tail, rfl⟩
      · contradiction
    · contradiction

theorem marksFrom_hits {lines : Lines}
    (cut : marksFrom file text lines cursor done hits = .ok (marks, left)) :
    marks.map (·.hit) = hits := by
  induction hits generalizing cursor done marks with
  | nil => cases cut; rfl
  | cons hit hits ih =>
      obtain ⟨start, stop, rest, -, -, -, -, tail, rfl⟩ := marksFrom_cons cut
      rw [List.map_cons, ih tail]

theorem marksFrom_source {lines : Lines} (reached : lines.offset? cursor = some done)
    (cut : marksFrom file text lines cursor done hits = .ok (marks, left)) :
    marks.flatMap Mark.source ++ left = text.drop done := by
  induction hits generalizing cursor done marks with
  | nil => cases cut; rfl
  | cons hit hits ih =>
      obtain ⟨start, stop, rest, ordered, foundStart, foundStop, le, tail, rfl⟩ := marksFrom_cons cut
      have fromDone := Lines.offset?_mono ordered reached foundStart
      rw [List.flatMap_cons, List.append_assoc, ih foundStop tail, Mark.source,
        slice_append_slice fromDone le, slice_append_drop (Nat.le_trans fromDone le)]

/-- The body of each mark lies between the two offsets of its location: what stands in front of it in
the text is what stands in front of it among the pieces. -/
theorem marksFrom_byteOffsets (reached : (linesOf text).offset? cursor = some done)
    (cut : marksFrom file text (linesOf text) cursor done hits = .ok (marks, left))
    {before after : List Mark} {mark : Mark} (split : marks = before ++ mark :: after) :
    byteOffset? text mark.hit.location.start =
        some (byteSize (text.take done ++ before.flatMap Mark.source ++ mark.gap)) ∧
      byteOffset? text mark.hit.location.finish =
        some (byteSize (text.take done ++ before.flatMap Mark.source ++ mark.gap ++ mark.body)) := by
  -- What carries the induction is that `done` is the offset of the cursor.
  induction hits generalizing cursor done marks before with
  | nil => cases cut; simp at split
  | cons hit hits ih =>
      obtain ⟨start, stop, rest, ordered, foundStart, foundStop, le, tail, rfl⟩ := marksFrom_cons cut
      have fromDone := Lines.offset?_mono ordered reached foundStart
      cases before with
      | nil =>
          obtain ⟨rfl, rfl⟩ := List.cons.inj split
          rw [List.flatMap_nil, List.append_nil, take_append_slice fromDone, take_append_slice le]
          exact ⟨byteOffset?_eq_some foundStart, byteOffset?_eq_some foundStop⟩
      | cons first before =>
          obtain ⟨rfl, splitRest⟩ := List.cons.inj split
          have front : text.take done ++ (Mark.mk (slice text done start) hit (slice text start stop)
              :: before).flatMap Mark.source = text.take stop ++ before.flatMap Mark.source := by
            rw [List.flatMap_cons, ← List.append_assoc, Mark.source, slice_append_slice fromDone le,
              take_append_slice (Nat.le_trans fromDone le)]
          rw [front]
          exact ih foundStop tail splitRest

theorem FileCoverage.marks_source {c : FileCoverage} (cut : c.marks = .ok (marks, left)) :
    marks.flatMap Mark.source ++ left = c.text.toList :=
  marksFrom_source (offset?_first c.text.toList) cut

theorem FileCoverage.marks_hits {c : FileCoverage} (cut : c.marks = .ok (marks, left)) :
    marks.map (·.hit) = c.hits.toList :=
  marksFrom_hits cut

theorem FileCoverage.marks_byteOffsets {c : FileCoverage} (cut : c.marks = .ok (marks, left))
    {before after : List Mark} {mark : Mark} (split : marks = before ++ mark :: after) :
    byteOffset? c.text.toList mark.hit.location.start =
        some (byteSize (before.flatMap Mark.source ++ mark.gap)) ∧
      byteOffset? c.text.toList mark.hit.location.finish =
        some (byteSize (before.flatMap Mark.source ++ mark.gap ++ mark.body)) :=
  marksFrom_byteOffsets (offset?_first c.text.toList) cut split

/-- The stretches of any two locations are apart: one ends before the other starts. -/
theorem FileCoverage.marks_disjoint {c : FileCoverage} (cut : c.marks = .ok (marks, left)) :
    marks.Pairwise fun a b => ∀ stop start,
      byteOffset? c.text.toList a.hit.location.finish = some stop →
      byteOffset? c.text.toList b.hit.location.start = some start → stop ≤ start := by
  rw [List.pairwise_iff_getElem]
  intro i j iBound jBound earlier stop start foundStop foundStart
  have splitFirst : marks = marks.take i ++ marks[i] :: marks.drop (i + 1) := by
    rw [← List.drop_eq_getElem_cons iBound, List.take_append_drop]
  have splitSecond : marks = marks.take j ++ marks[j] :: marks.drop (j + 1) := by
    rw [← List.drop_eq_getElem_cons jBound, List.take_append_drop]
  have firstEnds := (c.marks_byteOffsets cut splitFirst).2
  have secondStarts := (c.marks_byteOffsets cut splitSecond).1
  have inside : i < (marks.take j).length := by
    rw [List.length_take]
    omega
  have front : marks.take j =
      (marks.take j).take i ++ (marks.take j)[i] :: (marks.take j).drop (i + 1) := by
    rw [← List.drop_eq_getElem_cons inside, List.take_append_drop]
  rw [List.take_take, Nat.min_eq_left (Nat.le_of_lt earlier), List.getElem_take] at front
  rw [foundStop, Option.some.injEq] at firstEnds
  rw [foundStart, Option.some.injEq, front, List.flatMap_append, List.flatMap_cons] at secondStarts
  simp only [byteSize_append, Mark.source] at firstEnds secondStarts
  omega

end SpecTest.Coverage
