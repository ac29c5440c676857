import SpecTest.Coverage.Lines

/-!
Offsets of positions in a text: they grow with the positions.
-/

namespace SpecTest

open Data

namespace Position

theorem before_eq_false_iff {p q : Position} :
    q.before p = false ↔
      p.line.toNat < q.line.toNat ∨ p.line.toNat = q.line.toNat ∧ p.col.toNat ≤ q.col.toNat := by
  simp only [before, Bool.or_eq_false_iff, Bool.and_eq_false_iff, decide_eq_false_iff_not,
    beq_eq_false_iff_ne, UInt32.lt_iff_toNat_lt, ne_eq, ← UInt32.toNat_inj]
  omega

end Position

namespace Coverage

def byteSize (text : List Char) : Nat := sumOf (text.map Char.utf8Size)

theorem byteSize_append (front back : List Char) :
    byteSize (front ++ back) = byteSize front + byteSize back := by
  simp only [byteSize, List.map_append, sumOf_append]

namespace Lines

variable {lines : Lines} {p q : Position} {line : List Char} {i j index : Nat}

def start (lines : Lines) (index : Nat) : Nat := 
  sumOf ((lines.take index).map fun l => l.length + 1)

theorem start_succ (found : lines[index]? = some line) :
    lines.start (index + 1) = lines.start index + (line.length + 1) := by
  simp only [start, List.take_add_one, found, Option.toList_some, List.map_append, List.map_cons,
    List.map_nil, sumOf_append, sumOf_cons, sumOf_nil, Nat.add_zero]

theorem start_mono (ordered : i ≤ j) : lines.start i ≤ lines.start j := by
  obtain ⟨count, rfl⟩ := Nat.exists_eq_add_of_le ordered
  simp only [start, List.take_add, List.map_append, sumOf_append]
  omega

theorem offset?_eq_some_iff :
    lines.offset? p = some i ↔ ∃ index line, p.line.toNat = index + 1 ∧ lines[index]? = some line ∧
      p.col.toNat - 1 ≤ line.length ∧ lines.start index + (p.col.toNat - 1) = i := by
  unfold offset? start
  cases number : p.line.toNat with
  | zero => simp
  | succ index =>
      cases found : lines[index]? with
      | none => simp [found]
      | some line => simp [found]

/-- A position that does not come before another one does not have a smaller offset. -/
theorem offset?_mono (ordered : q.before p = false) (first : lines.offset? p = some i)
    (second : lines.offset? q = some j) : i ≤ j := by
  obtain ⟨firstIndex, firstLine, firstNumber, firstFound, firstFits, rfl⟩ :=
    offset?_eq_some_iff.mp first
  obtain ⟨secondIndex, secondLine, secondNumber, -, -, rfl⟩ := offset?_eq_some_iff.mp second
  rcases Position.before_eq_false_iff.mp ordered with earlier | ⟨same, columns⟩
  · -- The line of the first position ends before the other line starts.
    have ends := start_succ firstFound
    have begins : lines.start (firstIndex + 1) ≤ lines.start secondIndex := start_mono (by omega)
    omega
  · have sameIndex : firstIndex = secondIndex := by omega
    subst sameIndex
    omega

end Lines

theorem offset?_first (text : List Char) : (linesOf text).offset? Position.first = some 0 := by
  obtain ⟨line, rest, cut⟩ : ∃ line rest, linesOf text = line :: rest := by
    cases text with
    | nil => exact ⟨[], [], rfl⟩
    | cons c text =>
        simp only [linesOf, Text.splitAt]
        split
        · exact ⟨_, _, rfl⟩
        · split <;> exact ⟨_, _, rfl⟩
  rw [cut]
  exact Lines.offset?_eq_some_iff.mpr ⟨0, line, rfl, rfl, Nat.zero_le _, rfl⟩

theorem byteOffset?_eq_some {text : List Char} {p : Position} {i : Nat}
    (found : (linesOf text).offset? p = some i) : byteOffset? text p = some (byteSize (text.take i)) := by
  rw [byteOffset?, found]
  rfl

end Coverage

end SpecTest
