import SpecTest.Proofs.Coverage.Cutting
import SpecTest.Proofs.Text.Splitting

/-!
Pages by bytes.

A text that is kept as bytes is cut at byte offsets, and a cut outside the text or inside a character
fails.  The lines are found by the bytes behind their line feeds.  No cut that a page asks for fails, and
the page is the one that is cut by characters.
-/

namespace SpecTest.Coverage

open SpecTest.Data SpecTest.Text

variable {text front back line : List Char} {base index i j : Nat}

section Definitions

/-- The first bytes of a text, unless they end inside a character or the text has fewer. -/
def takeBytes? : List Char → Nat → Option (List Char)
  | [], size => if size = 0 then some [] else none
  | c :: text, size =>
    if size = 0 then some []
    else if c.utf8Size ≤ size then (takeBytes? text (size - c.utf8Size)).map (c :: ·)
    else none

/-- The text behind its first bytes, unless they end inside a character or the text has fewer. -/
def dropBytes? : List Char → Nat → Option (List Char)
  | [], size => if size = 0 then some [] else none
  | c :: text, size =>
    if size = 0 then some (c :: text)
    else if c.utf8Size ≤ size then dropBytes? text (size - c.utf8Size)
    else none

/-- The text between two byte offsets.  There is none if the offsets are in the wrong order, or if one of
them lies outside the text or inside a character. -/
def byteSlice? (text : List Char) (start stop : Nat) : Option (List Char) := do
  dropBytes? (← takeBytes? text stop) start

/-- The bytes behind the line feeds of a text that starts at the byte `base`. -/
def feedEndsFrom (base : Nat) : List Char → List Nat
  | [] => []
  | c :: text =>
    if c = '\n' then (base + 1) :: feedEndsFrom (base + 1) text
    else feedEndsFrom (base + c.utf8Size) text

def lineStarts (text : List Char) : List Nat := 0 :: feedEndsFrom 0 text

/-- The bytes where the characters of a text start that starts at the byte `base`, and where it ends. -/
def charStartsFrom (base : Nat) : List Char → List Nat
  | [] => [base]
  | c :: text => base :: charStartsFrom (base + c.utf8Size) text

/-- The byte offset of a position, found in the slice of its line.  Gives `none` where that slice fails,
and `some none` where the text has no such position. -/
def seek? (text : List Char) (starts : List Nat) (p : Position) : Option (Option Nat) :=
  match p.line.toNat with
  | 0 => some none
  | index + 1 =>
    match starts[index]? with
    | none => some none
    | some start => do
      let stop := match starts[index + 1]? with
        | some next => next - 1
        | none => byteSize text
      let line ← byteSlice? text start stop
      return (charStartsFrom 0 line)[p.col.toNat - 1]?.map (start + ·)

/-- Cuts the text behind the byte `done` at the locations.  Gives `none` where a slice fails. -/
def cutFrom? (file : Path) (text : List Char) (starts : List Nat) (cursor : Position) (done : Nat) :
    List Hit → Option (Except Failure (List Mark × List Char))
  | [] => do
    let left ← byteSlice? text done (byteSize text)
    return .ok ([], left)
  | h :: rest =>
    let l := h.location
    if l.startsBefore cursor then some (.error (.overlappingLocations file l cursor))
    else do
      let start? ← seek? text starts l.start
      match start? with
      | none => return .error (.locationOutOfRange file l)
      | some start =>
        let stop? ← seek? text starts l.finish
        match stop?.filter (start ≤ ·) with
        | none => return .error (.locationOutOfRange file l)
        | some stop =>
          let gap ← byteSlice? text done start
          let body ← byteSlice? text start stop
          let later ← cutFrom? file text starts l.finish stop rest
          return later.map fun (marks, left) => (⟨gap, h, body⟩ :: marks, left)

/-- The page of a file by bytes, or `none` if a slice of its text fails. -/
def FileCoverage.pageByBytes? (c : FileCoverage) : Option (Except Failure String) := do
  let text := c.text.toList
  let cut ← cutFrom? c.file text (lineStarts text) Position.first 0 c.hits.toList
  return cut.map fun (marks, left) => pageStart ++ String.ofList (pageBody marks left) ++ pageEnd

end Definitions

section Slices

@[simp] theorem byteSize_nil : byteSize [] = 0 := rfl

@[simp] theorem byteSize_cons (c : Char) (text : List Char) :
    byteSize (c :: text) = c.utf8Size + byteSize text :=
  rfl

theorem takeBytes?_append (front back : List Char) :
    takeBytes? (front ++ back) (byteSize front) = some front := by
  induction front with
  | nil => cases back <;> simp [takeBytes?]
  | cons c front ih =>
      have positive := c.utf8Size_pos
      rw [List.cons_append, takeBytes?, byteSize_cons, if_neg (by omega), if_pos (by omega),
        Nat.add_sub_cancel_left, ih, Option.map_some]

theorem dropBytes?_append (front back : List Char) :
    dropBytes? (front ++ back) (byteSize front) = some back := by
  induction front with
  | nil => cases back <;> simp [dropBytes?]
  | cons c front ih =>
      have positive := c.utf8Size_pos
      rw [List.cons_append, dropBytes?, byteSize_cons, if_neg (by omega), if_pos (by omega),
        Nat.add_sub_cancel_left, ih]

theorem byteSlice?_append (front middle back : List Char) :
    byteSlice? (front ++ middle ++ back) (byteSize front) (byteSize front + byteSize middle) =
      some middle := by
  rw [byteSlice?, ← byteSize_append, takeBytes?_append, Option.bind_eq_bind, Option.bind_some,
    dropBytes?_append]

theorem byteSize_take_append_slice (le : i ≤ j) :
    byteSize (text.take j) = byteSize (text.take i) + byteSize (slice text i j) := by
  rw [← byteSize_append, take_append_slice le]

/-- A slice by characters is the slice between the bytes where these characters start. -/
theorem byteSlice?_take (le : i ≤ j) :
    byteSlice? text (byteSize (text.take i)) (byteSize (text.take j)) = some (slice text i j) := by
  have whole : text.take i ++ slice text i j ++ text.drop j = text := by
    rw [take_append_slice le, List.take_append_drop]
  have sliced := byteSlice?_append (text.take i) (slice text i j) (text.drop j)
  rwa [whole, ← byteSize_take_append_slice le] at sliced

theorem byteSlice?_rest (text : List Char) (i : Nat) :
    byteSlice? text (byteSize (text.take i)) (byteSize text) = some (text.drop i) := by
  have sliced := byteSlice?_append (text.take i) (text.drop i) []
  rwa [List.append_nil, List.take_append_drop, ← byteSize_append, List.take_append_drop] at sliced

/-- Offsets in characters and in bytes have one order. -/
theorem byteSize_take_le_iff (inText : i ≤ text.length) :
    byteSize (text.take i) ≤ byteSize (text.take j) ↔ i ≤ j := by
  constructor
  · intro le
    refine Nat.not_lt.mp fun behind => ?_
    -- The characters from `j` to `i` are at least one, and none of them is without bytes.
    obtain ⟨c, rest, between⟩ : ∃ c rest, slice text j i = c :: rest := by
      refine List.exists_cons_of_ne_nil (List.ne_nil_of_length_pos ?_)
      rw [slice, List.length_drop, List.length_take]
      omega
    have more : byteSize (text.take i) = byteSize (text.take j) + byteSize (slice text j i) :=
      byteSize_take_append_slice (Nat.le_of_lt behind)
    have positive := c.utf8Size_pos
    rw [between, byteSize_cons] at more
    omega
  · intro le
    rw [byteSize_take_append_slice le]
    exact Nat.le_add_right _ _

end Slices

section Lines

theorem getElem?_charStartsFrom (base : Nat) (line : List Char) (i : Nat) :
    (charStartsFrom base line)[i]? = if i ≤ line.length then some (base + byteSize (line.take i)) else none := by
  induction line generalizing base i with
  | nil => cases i <;> simp [charStartsFrom]
  | cons c line ih =>
      cases i with
      | zero => simp [charStartsFrom]
      | succ i => simp [charStartsFrom, ih, Nat.add_assoc]

theorem Lines.start_cons (line : List Char) (lines : Lines) (index : Nat) :
    Lines.start (line :: lines) (index + 1) = line.length + 1 + lines.start index :=
  rfl

/-- A line with the text around it, told by the bytes where the lines of a text start.  Its end is in front
of the next start, or is the end of the text. -/
structure LineBetween (base : Nat) (text : List Char) (index : Nat) (line front back : List Char) : Prop where
  whole : text = front ++ line ++ back
  before : front.length = (linesOf text).start index
  start : (base :: feedEndsFrom base text)[index]? = some (base + byteSize front)
  next : (base :: feedEndsFrom base text)[index + 1]? = none ∧ back = [] ∨
    (base :: feedEndsFrom base text)[index + 1]? = some (base + byteSize front + byteSize line + 1)

theorem exists_lineBetween (found : (linesOf text)[index]? = some line) (base : Nat) :
    ∃ front back, LineBetween base text index line front back := by
  induction text generalizing base index line with
  | nil =>
      cases index with
      | zero =>
          cases found
          exact ⟨[], [], rfl, rfl, rfl, .inl ⟨rfl, rfl⟩⟩
      | succ index => simp [linesOf] at found
  | cons c text ih =>
      by_cases feed : c = '\n'
      · subst feed
        have lines : linesOf ('\n' :: text) = [] :: linesOf text := splitAt_sep text
        have starts : feedEndsFrom base ('\n' :: text) = (base + 1) :: feedEndsFrom (base + 1) text := rfl
        have oneByte (front : List Char) : byteSize ('\n' :: front) = 1 + byteSize front := rfl
        rw [lines] at found
        cases index with
        | zero =>
            cases found
            exact ⟨[], '\n' :: text, rfl, rfl, rfl, .inr rfl⟩
        | succ index =>
            obtain ⟨front, back, between⟩ := ih found (base + 1)
            have start := between.start
            have next := between.next
            refine ⟨'\n' :: front, back, congrArg ('\n' :: ·) between.whole, ?_, ?_, ?_⟩
            · rw [lines, Lines.start_cons, List.length_cons, between.before]
              exact Nat.add_comm _ _
            · rw [starts, List.getElem?_cons_succ, oneByte, ← Nat.add_assoc, start]
            · rw [starts, List.getElem?_cons_succ, oneByte, ← Nat.add_assoc]
              exact next
      · obtain ⟨part, parts, cut⟩ := List.exists_cons_of_ne_nil (splitAt_ne_nil '\n' text)
        have lines : linesOf (c :: text) = (c :: part) :: parts := splitAt_other feed cut
        have linesBehind : linesOf text = part :: parts := cut
        have starts : feedEndsFrom base (c :: text) = feedEndsFrom (base + c.utf8Size) text := by
          rw [feedEndsFrom, if_neg feed]
        rw [lines] at found
        cases index with
        | zero =>
            cases found
            obtain ⟨front, back, between⟩ := ih (congrArg (·[0]?) linesBehind) (base + c.utf8Size)
            have blank : front = [] := List.eq_nil_of_length_eq_zero between.before
            subst blank
            refine ⟨[], back, congrArg (c :: ·) between.whole, rfl, rfl, ?_⟩
            rw [starts, byteSize_cons]
            exact between.next.imp_right fun next => by simpa [Nat.add_assoc] using next
        | succ index =>
            have foundBehind : (linesOf text)[index + 1]? = some line := by
              rw [linesBehind]
              exact found
            obtain ⟨front, back, between⟩ := ih foundBehind (base + c.utf8Size)
            refine ⟨c :: front, back, congrArg (c :: ·) between.whole, ?_, ?_, ?_⟩
            · have before := between.before
              rw [linesBehind, Lines.start_cons] at before
              rw [lines, Lines.start_cons, List.length_cons, List.length_cons, before]
              omega
            · rw [starts, byteSize_cons, ← Nat.add_assoc]
              exact between.start
            · rw [starts, byteSize_cons, ← Nat.add_assoc]
              exact between.next

theorem length_linesOf (text : List Char) : (linesOf text).length = text.count '\n' + 1 := by
  induction text with
  | nil => rfl
  | cons c text ih =>
      by_cases feed : c = '\n'
      · subst feed
        rw [linesOf, splitAt_sep, List.length_cons, ← linesOf, ih, List.count_cons_self]
      · obtain ⟨part, parts, cut⟩ := List.exists_cons_of_ne_nil (splitAt_ne_nil '\n' text)
        rw [linesOf, cut] at ih
        rw [linesOf, splitAt_other feed cut, List.count_cons_of_ne feed]
        exact ih

theorem length_feedEndsFrom (base : Nat) (text : List Char) :
    (feedEndsFrom base text).length = text.count '\n' := by
  induction text generalizing base with
  | nil => rfl
  | cons c text ih => by_cases feed : c = '\n' <;> simp [feedEndsFrom, feed, ih]

theorem getElem?_lineStarts_eq_none (missing : (linesOf text)[index]? = none) :
    (lineStarts text)[index]? = none := by
  rw [List.getElem?_eq_none_iff] at missing ⊢
  rw [lineStarts, List.length_cons, length_feedEndsFrom, ← length_linesOf]
  exact missing

/-- The slice of a line does not fail. -/
theorem byteSlice?_line (found : (linesOf text)[index]? = some line) :
    ∃ front back start, text = front ++ line ++ back ∧ front.length = (linesOf text).start index ∧
      (lineStarts text)[index]? = some start ∧ start = byteSize front ∧
      byteSlice? text start (match (lineStarts text)[index + 1]? with
        | some next => next - 1
        | none => byteSize text) = some line := by
  obtain ⟨front, back, between⟩ := exists_lineBetween found 0
  have start := between.start
  have sliced := byteSlice?_append front line back
  rw [Nat.zero_add] at start
  rw [← between.whole] at sliced
  refine ⟨front, back, byteSize front, between.whole, between.before, start, rfl, ?_⟩
  rcases between.next with ⟨last, rfl⟩ | next
  · have stop : byteSize text = byteSize front + byteSize line := by
      rw [between.whole, List.append_nil, byteSize_append]
    rw [lineStarts, last, stop]
    exact sliced
  · rw [lineStarts, next]
    simpa using sliced

/-- Seeking a position never slices badly, and gives the byte offset of the position. -/
theorem seek?_eq (text : List Char) (p : Position) :
    seek? text (lineStarts text) p = some (byteOffset? text p) := by
  cases number : p.line.toNat with
  | zero => simp [seek?, byteOffset?, Lines.offset?, number]
  | succ index =>
      cases found : (linesOf text)[index]? with
      | none =>
          have missing := getElem?_lineStarts_eq_none found
          simp [seek?, byteOffset?, Lines.offset?, number, found, missing]
      | some line =>
          obtain ⟨front, back, start, whole, before, starts, rfl, sliced⟩ := byteSlice?_line found
          simp only [seek?, number, starts, sliced, Option.bind_eq_bind, Option.bind_some,
            getElem?_charStartsFrom]
          by_cases fits : p.col.toNat - 1 ≤ line.length
          · have place : (linesOf text).offset? p = some (front.length + (p.col.toNat - 1)) :=
              Lines.offset?_eq_some_iff.mpr ⟨index, line, number, found, fits, by rw [before]⟩
            have taken : text.take (front.length + (p.col.toNat - 1)) =
                front ++ line.take (p.col.toNat - 1) := by
              rw [whole, List.append_assoc, List.take_length_add_append, List.take_append_of_le_length fits]
            rw [if_pos fits, byteOffset?_eq_some place, taken, byteSize_append]
            simp
          · have outside : (linesOf text).offset? p = none := by
              simp [Lines.offset?, number, found, fits]
            rw [if_neg fits, byteOffset?, outside]
            rfl

theorem offset?_le_length {p : Position} (found : (linesOf text).offset? p = some i) : i ≤ text.length := by
  obtain ⟨index, line, -, listed, fits, rfl⟩ := Lines.offset?_eq_some_iff.mp found
  obtain ⟨front, back, start, whole, before, -⟩ := byteSlice?_line listed
  have size : text.length = front.length + line.length + back.length := by
    rw [whole, List.length_append, List.length_append]
  omega

end Lines

section Cutting

variable {file : Path} {cursor : Position} {done : Nat} {hits : List Hit}

/-- Cutting by bytes never fails at a slice, and gives what cutting by characters gives.  The induction is
on the locations, and carries that the cursor has its place at the byte `done`. -/
theorem cutFrom?_eq (reached : (linesOf text).offset? cursor = some done) :
    cutFrom? file text (lineStarts text) cursor (byteSize (text.take done)) hits =
      some (marksFrom file text (linesOf text) cursor done hits) := by
  induction hits generalizing cursor done with
  | nil =>
      rw [cutFrom?, byteSlice?_rest]
      rfl
  | cons hit hits ih =>
      rw [cutFrom?, marksFrom]
      by_cases overlap : hit.location.startsBefore cursor = true
      · rw [if_pos overlap, if_pos overlap]
      · rw [if_neg overlap, if_neg overlap, seek?_eq, seek?_eq]
        cases foundStart : (linesOf text).offset? hit.location.start with
        | none => simp [byteOffset?, foundStart]
        | some start =>
            cases foundStop : (linesOf text).offset? hit.location.finish with
            | none => simp [byteOffset?, foundStart, foundStop]
            | some stop =>
                have order := byteSize_take_le_iff (j := stop) (offset?_le_length foundStart)
                rw [byteOffset?_eq_some foundStart, byteOffset?_eq_some foundStop]
                by_cases le : start ≤ stop
                · have fromDone : done ≤ start :=
                    Lines.offset?_mono (Bool.eq_false_iff.mpr overlap) reached foundStart
                  simp only [Option.bind_eq_bind, Option.bind_some, Option.filter_some, order, le,
                    decide_true, if_true, byteSlice?_take fromDone, byteSlice?_take le, ih foundStop]
                  cases marksFrom file text (linesOf text) hit.location.finish stop hits <;> rfl
                · simp [Option.filter_some, order, le]

theorem FileCoverage.pageByBytes?_eq (c : FileCoverage) : c.pageByBytes? = some c.page := by
  have cut : cutFrom? c.file c.text.toList (lineStarts c.text.toList) Position.first 0 c.hits.toList =
      some c.marks := cutFrom?_eq (offset?_first c.text.toList)
  rw [FileCoverage.pageByBytes?, cut, FileCoverage.page]
  cases c.marks <;> rfl

end Cutting

end SpecTest.Coverage
