import Mathlib.Logic.ExistsUnique
import SpecTest.Proofs.Coverage.Bytes

/-!
Positions by counting.

Reading a text counts its lines and columns, and a character has the position that is reached in front of it.
Seeking undoes counting: it finds every position that is reached at the byte where it is reached, and it finds
no others, but for those in column zero.
-/

namespace SpecTest

open SpecTest.Data SpecTest.Text

namespace Position

/-- The line and the column, both counted from one. -/
def numbers (p : Position) : Nat × Nat := (p.line.toNat, p.col.toNat)

theorem numbers_inj {p q : Position} (same : p.numbers = q.numbers) : p = q := by
  cases p
  cases q
  simpa [numbers, UInt32.toNat_inj] using same

end Position

namespace Coverage

variable {text : List Char} {lines : Lines} {p q : Position} {i j k l index other col otherCol offset : Nat}

/-- Counts one more character: the next line starts behind a line feed. -/
def countChar (place : Nat × Nat) (c : Char) : Nat × Nat :=
  if c = '\n' then (place.1 + 1, 1) else (place.1, place.2 + 1)

/-- The line and the column that are reached behind a text. -/
def placeBehind (text : List Char) : Nat × Nat := text.foldl countChar (1, 1)

/-- Does the column lie in the line, or behind its last character, with `k` characters in front of it?  Lines and
columns are counted from zero here. -/
def Lines.Places (lines : Lines) (index col k : Nat) : Prop :=
  ∃ line, lines[index]? = some line ∧ col ≤ line.length ∧ lines.start index + col = k

section Places

theorem Lines.offset?_eq_some_iff_places : lines.offset? p = some k ↔
    ∃ index, p.line.toNat = index + 1 ∧ lines.Places index (p.col.toNat - 1) k := by
  simp only [offset?_eq_some_iff, Places, exists_and_left]

/-- An offset lies in one line and in one column of it. -/
theorem Lines.Places.unique (place : lines.Places index col k) (same : lines.Places other otherCol k) :
    index = other ∧ col = otherCol := by
  obtain ⟨line, found, fits, offset⟩ := place
  obtain ⟨otherLine, otherFound, otherFits, otherOffset⟩ := same
  have ends := start_succ found
  have otherEnds := start_succ otherFound
  -- Of two lines the one in front ends before the other one starts.
  rcases Nat.lt_trichotomy index other with front | same | behind
  · have begins : lines.start (index + 1) ≤ lines.start other := start_mono front
    omega
  · subst same
    exact ⟨rfl, by omega⟩
  · have begins : lines.start (other + 1) ≤ lines.start index := start_mono behind
    omega

theorem places_feed (place : (linesOf text).Places index col k) :
    (linesOf ('\n' :: text)).Places (index + 1) col (k + 1) := by
  obtain ⟨line, found, fits, offset⟩ := place
  have lines : linesOf ('\n' :: text) = [] :: linesOf text := splitAt_sep text
  refine ⟨line, by rw [lines, List.getElem?_cons_succ, found], fits, ?_⟩
  rw [lines, Lines.start_cons, List.length_nil]
  omega

/-- A character in front moves the columns of the first line, and nothing but the offsets of the others. -/
theorem places_other {c : Char} (other : c ≠ '\n') (place : (linesOf text).Places index col k) :
    (linesOf (c :: text)).Places index (if index = 0 then col + 1 else col) (k + 1) := by
  obtain ⟨line, found, fits, offset⟩ := place
  obtain ⟨part, parts, cut⟩ := List.exists_cons_of_ne_nil (splitAt_ne_nil '\n' text)
  have lines : linesOf (c :: text) = (c :: part) :: parts := splitAt_other other cut
  change linesOf text = part :: parts at cut
  rw [cut] at found offset
  rw [lines]
  cases index with
  | zero =>
      cases found
      exact ⟨c :: line, rfl, Nat.succ_le_succ fits, congrArg (· + 1) offset⟩
  | succ index =>
      refine ⟨line, found, fits, ?_⟩
      rw [Lines.start_cons] at offset ⊢
      rw [if_neg (Nat.succ_ne_zero index), List.length_cons]
      omega

/-- Counting on from any place reaches each offset in its line and its column.  The column goes on from that place
until the first line feed. -/
theorem exists_places (inText : k ≤ text.length) (place : Nat × Nat) :
    ∃ index col, (linesOf text).Places index col k ∧ (text.take k).foldl countChar place =
      (place.1 + index, (if index = 0 then place.2 else 1) + col) := by
  -- The place is any, because behind a character counting goes on from another one.
  induction text generalizing k place with
  | nil =>
      obtain rfl : k = 0 := by simpa using inText
      exact ⟨0, 0, ⟨[], rfl, Nat.le_refl 0, rfl⟩, rfl⟩
  | cons c text ih =>
      cases k with
      | zero =>
          obtain ⟨line, lines, cut⟩ := List.exists_cons_of_ne_nil (splitAt_ne_nil '\n' (c :: text))
          exact ⟨0, 0, ⟨line, congrArg (·[0]?) cut, Nat.zero_le _, rfl⟩, rfl⟩
      | succ k =>
          obtain ⟨index, col, placed, reached⟩ := ih (Nat.le_of_succ_le_succ inText) (countChar place c)
          rw [List.take_succ_cons, List.foldl_cons, reached]
          by_cases feed : c = '\n'
          · subst feed
            refine ⟨index + 1, col, places_feed placed, ?_⟩
            have next : countChar place '\n' = (place.1 + 1, 1) := rfl
            rw [next, if_neg (Nat.succ_ne_zero index), ite_self, Nat.add_assoc, Nat.add_comm 1 index]
          · refine ⟨index, _, places_other feed placed, ?_⟩
            rw [countChar, if_neg feed]
            cases index with
            | zero => simp [Nat.add_comm, Nat.add_left_comm]
            | succ index => rfl

theorem exists_places_behind (inText : k ≤ text.length) :
    ∃ index col, (linesOf text).Places index col k ∧ placeBehind (text.take k) = (index + 1, col + 1) := by
  obtain ⟨index, col, placed, reached⟩ := exists_places inText (1, 1)
  refine ⟨index, col, placed, ?_⟩
  rw [placeBehind, reached, ite_self, Nat.add_comm 1, Nat.add_comm 1]

end Places

section Seeking

/-- The positions with an offset are those that are reached by counting, and each has the offset at which it is
reached. -/
theorem offset?_eq_some_iff_reached (counted : 1 ≤ p.col.toNat) :
    (linesOf text).offset? p = some k ↔ k ≤ text.length ∧ placeBehind (text.take k) = p.numbers := by
  have columns : p.col.toNat - 1 + 1 = p.col.toNat := Nat.sub_add_cancel counted
  constructor
  · intro found
    have inText := offset?_le_length found
    obtain ⟨index, number, place⟩ := Lines.offset?_eq_some_iff_places.mp found
    obtain ⟨reachedIndex, reachedCol, reachedPlace, reached⟩ := exists_places_behind inText
    obtain ⟨rfl, rfl⟩ := reachedPlace.unique place
    rw [reached, Position.numbers, number, columns]
    exact ⟨inText, rfl⟩
  · rintro ⟨inText, reached⟩
    obtain ⟨index, col, place, counted⟩ := exists_places_behind inText
    obtain ⟨number, column⟩ := Prod.mk.inj (counted.symm.trans reached)
    refine Lines.offset?_eq_some_iff_places.mpr ⟨index, number.symm, ?_⟩
    rwa [← column, Nat.add_sub_cancel]

theorem byteOffset?_eq_some_iff : byteOffset? text p = some offset ↔
    ∃ k, (linesOf text).offset? p = some k ∧ byteSize (text.take k) = offset := by
  rw [byteOffset?, Option.map_eq_some_iff]
  rfl

theorem byteSize_take_inj (inText : k ≤ text.length) (alsoInText : l ≤ text.length)
    (same : byteSize (text.take k) = byteSize (text.take l)) : k = l :=
  Nat.le_antisymm ((byteSize_take_le_iff inText).mp (Nat.le_of_eq same))
    ((byteSize_take_le_iff alsoInText).mp (Nat.le_of_eq same.symm))

theorem byteOffset?_inj (counted : 1 ≤ p.col.toNat) (alsoCounted : 1 ≤ q.col.toNat)
    (found : byteOffset? text p = some offset) (same : byteOffset? text q = some offset) : p = q := by
  obtain ⟨k, place, size⟩ := byteOffset?_eq_some_iff.mp found
  obtain ⟨l, otherPlace, otherSize⟩ := byteOffset?_eq_some_iff.mp same
  obtain ⟨inText, reached⟩ := (offset?_eq_some_iff_reached counted).mp place
  obtain ⟨alsoInText, alsoReached⟩ := (offset?_eq_some_iff_reached alsoCounted).mp otherPlace
  obtain rfl : k = l := byteSize_take_inj inText alsoInText (size.trans otherSize.symm)
  exact Position.numbers_inj (reached.symm.trans alsoReached)

theorem byteOffset?_mono (ordered : q.before p = false) (first : byteOffset? text p = some i)
    (second : byteOffset? text q = some j) : i ≤ j := by
  obtain ⟨k, place, rfl⟩ := byteOffset?_eq_some_iff.mp first
  obtain ⟨l, otherPlace, rfl⟩ := byteOffset?_eq_some_iff.mp second
  exact (byteSize_take_le_iff (offset?_le_length place)).mpr (Lines.offset?_mono ordered place otherPlace)

/-- Column zero stands for the first column. -/
theorem exists_counted (text : List Char) (p : Position) :
    ∃ q : Position, 1 ≤ q.col ∧ byteOffset? text q = byteOffset? text p := by
  by_cases zero : p.col = 0
  · refine ⟨⟨p.line, 1⟩, UInt32.le_refl 1, ?_⟩
    simp [byteOffset?, Lines.offset?, zero]
  · refine ⟨p, ?_, rfl⟩
    rw [UInt32.le_iff_toNat_le]
    exact Nat.pos_of_ne_zero fun none => zero (UInt32.toNat_inj.mp none)

end Seeking

section Bytes

/-- The bytes of the characters in front of the one with this number. -/
def bytesBefore (text : String) (k : Nat) : Nat := (String.ofList (text.toList.take k)).utf8ByteSize

theorem utf8ByteSize_ofList (text : List Char) : (String.ofList text).utf8ByteSize = byteSize text := by
  induction text with
  | nil => rfl
  | cons c text ih =>
      rw [String.ofList_cons, String.utf8ByteSize_append, String.utf8ByteSize_singleton, ih, byteSize_cons]

theorem byteOffset?_eq_bytesBefore {text : String} (counted : 1 ≤ p.col.toNat) :
    byteOffset? text.toList p = some offset ↔
      ∃ k ≤ text.length, placeBehind (text.toList.take k) = p.numbers ∧ bytesBefore text k = offset := by
  simp only [byteOffset?_eq_some_iff, offset?_eq_some_iff_reached counted, String.length_toList, and_assoc,
    bytesBefore, utf8ByteSize_ofList]

theorem isValid_bytesBefore (text : String) (k : Nat) : String.Pos.Raw.IsValid text ⟨bytesBefore text k⟩ :=
  String.Pos.Raw.isValid_iff_exists_take_toList.mpr ⟨k, rfl⟩

/-- Behind any text a column is at least the first. -/
theorem placeBehind_col_pos (text : List Char) : 1 ≤ (placeBehind text).2 := by
  obtain ⟨index, col, -, reached⟩ := exists_places_behind (Nat.le_refl text.length)
  rw [List.take_length] at reached
  rw [reached]
  exact Nat.le_add_left 1 col

end Bytes

/-- Seeking the position that is reached in front of a character finds the byte where the character starts, or
the end of the text behind the last one.  Whatever is found lies between two characters, at exactly one
position that counts its columns from one, and positions in order are found in order.  Seeking by the bytes
where the lines start finds the same. -/
theorem byteOffset?_inverts (text : String) :
    (∀ k ≤ text.length, ∀ p : Position, p.numbers = placeBehind (text.toList.take k) →
      byteOffset? text.toList p = some (bytesBefore text k)) ∧
    bytesBefore text text.length = text.utf8ByteSize ∧
    (∀ p offset, byteOffset? text.toList p = some offset →
      String.Pos.Raw.IsValid text ⟨offset⟩ ∧
      (1 ≤ p.col → ∃ k ≤ text.length, p.numbers = placeBehind (text.toList.take k)) ∧
      ∃! q : Position, 1 ≤ q.col ∧ byteOffset? text.toList q = some offset) ∧
    (∀ p q i j, byteOffset? text.toList p = some i → byteOffset? text.toList q = some j →
      p.line < q.line ∨ p.line = q.line ∧ p.col ≤ q.col → i ≤ j) ∧
    ∀ p, seek? text.toList (lineStarts text.toList) p = some (byteOffset? text.toList p) := by
  simp only [UInt32.le_iff_toNat_le, UInt32.lt_iff_toNat_lt, ← UInt32.toNat_inj]
  refine ⟨fun k inText p reached => ?_, ?_, fun p offset found => ?_, fun p q i j first second ordered => ?_,
    seek?_eq text.toList⟩
  · have counted : 1 ≤ p.numbers.2 := reached ▸ placeBehind_col_pos _
    exact (byteOffset?_eq_bytesBefore counted).mpr ⟨k, inText, reached.symm, rfl⟩
  · rw [bytesBefore, ← String.length_toList, List.take_length, String.ofList_toList]
  · obtain ⟨q, counted, same⟩ := exists_counted text.toList p
    rw [UInt32.le_iff_toNat_le] at counted
    have located : byteOffset? text.toList q = some offset := same.trans found
    obtain ⟨k, inText, -, rfl⟩ := (byteOffset?_eq_bytesBefore counted).mp located
    refine ⟨isValid_bytesBefore text k, fun ownCounted => ?_, q, ⟨counted, located⟩, fun r other => ?_⟩
    · obtain ⟨k, inText, reached, -⟩ := (byteOffset?_eq_bytesBefore ownCounted).mp found
      exact ⟨k, inText, reached.symm⟩
    · exact byteOffset?_inj other.1 counted other.2 located
  · exact byteOffset?_mono (Position.before_eq_false_iff.mpr ordered) first second

section Samples

def bracketText : String := "é\n\n<b"

/-- Characters of more than one byte, an empty line, and the end of the text. -/
theorem byteOffset?_inverts_blank :
    (3 ≤ bracketText.length ∧ (⟨3, 1⟩ : Position).numbers = placeBehind (bracketText.toList.take 3) ∧
      byteOffset? bracketText.toList ⟨3, 1⟩ = some (bytesBefore bracketText 3)) ∧
    (byteOffset? bracketText.toList ⟨2, 0⟩ = some 3 ∧ String.Pos.Raw.IsValid bracketText ⟨3⟩ ∧
      ∃! q : Position, 1 ≤ q.col ∧ byteOffset? bracketText.toList q = some 3) ∧
    byteOffset? bracketText.toList ⟨3, 3⟩ = some 6 ∧ 3 ≤ 6 := by
  obtain ⟨seeks, -, finds, ordered, -⟩ := byteOffset?_inverts bracketText
  have inText : 3 ≤ bracketText.length := by decide
  have reached : (⟨3, 1⟩ : Position).numbers = placeBehind (bracketText.toList.take 3) := by decide
  have blank : byteOffset? bracketText.toList ⟨2, 0⟩ = some 3 := by decide
  have last : byteOffset? bracketText.toList ⟨3, 3⟩ = some 6 := by decide
  obtain ⟨valid, -, unique⟩ := finds _ _ blank
  exact ⟨⟨inText, reached, seeks _ inText _ reached⟩, ⟨blank, valid, unique⟩, last,
    ordered _ _ _ _ blank last (by decide)⟩

end Samples

end Coverage

end SpecTest
