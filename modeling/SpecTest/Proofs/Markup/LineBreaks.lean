import SpecTest.Proofs.Markup.Pieces
import SpecTest.Proofs.Markup.References

/-!
What becomes of the line breaks and tabs in the values of a document.

A reader takes every end of a line for a line feed before it looks at the markup, and in values it takes every
line feed or tab for a blank.
-/

namespace SpecTest.Markup

open SpecTest.Text

variable {c : Char} {text rest : List Char}

/-- Makes every end of a line a line feed.  The first argument tells whether a carriage return was just read,
which a line feed behind it ends the same line as. -/
def joinLines : Bool → List Char → List Char
  | _, [] => []
  | behindReturn, c :: rest =>
    if c = '\r' then '\n' :: joinLines true rest
    else if c = '\n' ∧ behindReturn then joinLines false rest
    else c :: joinLines false rest

def IsBreak (c : Char) : Prop := c = '\t' ∨ c = '\n' ∨ c = '\r'

instance (c : Char) : Decidable (IsBreak c) := inferInstanceAs (Decidable (_ ∨ _ ∨ _))

def toBlank (c : Char) : Char := if IsBreak c then ' ' else c

def joinedValue (value : String) : String := String.ofList (joinLines false value.toList)

def blankedValue (value : String) : String := String.ofList (value.toList.map toBlank)

/-- A value as a reader gives it. -/
def normalizedValue (value : String) : String := blankedValue (joinedValue value)

section Joining

theorem joinLines_return (behindReturn : Bool) :
    joinLines behindReturn ('\r' :: rest) = '\n' :: joinLines true rest := by
  simp [joinLines]

theorem joinLines_feed (behindReturn : Bool) : joinLines behindReturn ('\n' :: rest) =
    if behindReturn then joinLines false rest else '\n' :: joinLines false rest := by
  simp [joinLines]

theorem joinLines_other (notReturn : c ≠ '\r') (notFeed : c ≠ '\n') (behindReturn : Bool) :
    joinLines behindReturn (c :: rest) = c :: joinLines false rest := by
  simp [joinLines, notReturn, notFeed]

theorem joinLines_of_ne (notFeed : c ≠ '\n') (behindReturn : Bool) :
    joinLines behindReturn (c :: rest) = joinLines false (c :: rest) := by
  simp [joinLines, notFeed]

theorem joinLines_append_of_plain (plain : '\r' ∉ text) :
    joinLines false (text ++ rest) = text ++ joinLines false rest := by
  induction text with
  | nil => rfl
  | cons c text ih =>
      simp only [List.mem_cons, not_or] at plain
      rw [List.cons_append, joinLines, if_neg (Ne.symm plain.1), if_neg (by simp), ih plain.2, List.cons_append]

theorem joinLines_of_plain (plain : '\r' ∉ text) : joinLines false text = text := by
  have joined : joinLines false (text ++ []) = text ++ [] := joinLines_append_of_plain plain
  rwa [List.append_nil] at joined

/-- The escape of a character has no line break unless it is one. -/
theorem mem_escapeChars_of_isBreak (isBreak : IsBreak c) : c ∈ escapeChars text ↔ c ∈ text := by
  rcases isBreak with rfl | rfl | rfl
  · simp [escapeChars, mem_replaceChar]
  · simp [escapeChars, mem_replaceChar]
  · simp [escapeChars, mem_replaceChar]

theorem escapeChars_singleton_ne_nil (c : Char) : escapeChars [c] ≠ [] := by
  rcases escapeChar_cases c with ⟨plain, -⟩ | ⟨e, -, -, written⟩
  · simp [plain]
  · simp [written]

theorem joinLines_escapeChar (notFeed : c ≠ '\n') (notReturn : c ≠ '\r') (behindReturn : Bool) :
    joinLines behindReturn (escapeChars [c] ++ rest) = escapeChars [c] ++ joinLines false rest := by
  have noFeed : '\n' ∉ escapeChars [c] := by
    rw [mem_escapeChars_of_isBreak (.inr (.inl rfl)), List.mem_singleton]
    exact Ne.symm notFeed
  have noReturn : '\r' ∉ escapeChars [c] := by
    rw [mem_escapeChars_of_isBreak (.inr (.inr rfl)), List.mem_singleton]
    exact Ne.symm notReturn
  obtain ⟨first, more, written⟩ := List.exists_cons_of_ne_nil (escapeChars_singleton_ne_nil c)
  have firstNotFeed : first ≠ '\n' := by
    intro same
    apply noFeed
    simp [written, same]
  rw [← joinLines_append_of_plain noReturn, written, List.cons_append, joinLines_of_ne firstNotFeed]

theorem escapeChars_of_isBreak (isBreak : IsBreak c) : escapeChars [c] = [c] := by
  rcases isBreak with rfl | rfl | rfl
  · decide
  · decide
  · decide

/-- Escaping and joining lines do not meet: the ends of lines are not escaped, and no escape has one. -/
theorem joinLines_escapeChars (stop : c ≠ '\n') (text : List Char) (behindReturn : Bool) :
    joinLines behindReturn (escapeChars text ++ c :: rest) =
      escapeChars (joinLines behindReturn text) ++ joinLines false (c :: rest) := by
  have feed := escapeChars_of_isBreak (.inr (.inl rfl) : IsBreak '\n')
  have returns := escapeChars_of_isBreak (.inr (.inr rfl) : IsBreak '\r')
  induction text generalizing behindReturn with
  | nil => exact joinLines_of_ne stop behindReturn
  | cons d text ih =>
      rw [escapeChars_cons, List.append_assoc]
      by_cases isReturn : d = '\r'
      · rw [isReturn, returns, List.singleton_append, joinLines_return, joinLines_return, ih,
          escapeChars_cons, feed]
        rfl
      · by_cases isFeed : d = '\n'
        · rw [isFeed, feed, List.singleton_append, joinLines_feed, joinLines_feed, ih]
          cases behindReturn with
          | true => rfl
          | false =>
              rw [if_neg Bool.false_ne_true, if_neg Bool.false_ne_true, escapeChars_cons, feed]
              rfl
        · rw [joinLines_escapeChar isFeed isReturn, joinLines_other isReturn isFeed, ih,
            escapeChars_cons d (joinLines false text), List.append_assoc]

end Joining

section Blanking

theorem not_isBreak_toBlank (c : Char) : ¬ IsBreak (toBlank c) := by
  rw [toBlank]
  split
  · decide
  · assumption

theorem map_toBlank_of_plain (plain : ∀ c ∈ text, ¬ IsBreak c) : text.map toBlank = text := by
  induction text with
  | nil => rfl
  | cons c text ih =>
      obtain ⟨first, others⟩ := List.forall_mem_cons.mp plain
      rw [List.map_cons, ih others, toBlank, if_neg first]

theorem map_toBlank_escapeChar (c : Char) : (escapeChars [c]).map toBlank = escapeChars [toBlank c] := by
  by_cases isBreak : IsBreak c
  · rw [escapeChars_of_isBreak isBreak, List.map_singleton, toBlank, if_pos isBreak]
    decide
  · have plain : ∀ d ∈ escapeChars [c], ¬ IsBreak d := by
      intro d member breaks
      rw [mem_escapeChars_of_isBreak breaks, List.mem_singleton] at member
      exact isBreak (member ▸ breaks)
    rw [map_toBlank_of_plain plain, toBlank, if_neg isBreak]

theorem map_toBlank_escapeChars (text : List Char) :
    (escapeChars text).map toBlank = escapeChars (text.map toBlank) := by
  induction text with
  | nil => rfl
  | cons c text ih =>
      rw [escapeChars_cons, List.map_append, ih, map_toBlank_escapeChar, List.map_cons, ← escapeChars_cons]

end Blanking

def Unbroken (value : String) : Prop := ∀ c ∈ value.toList, ¬ IsBreak c

/-- A reader gives the values as they were where they have neither line breaks nor tabs. -/
theorem normalizedValue_eq_self_iff {value : String} : normalizedValue value = value ↔ Unbroken value := by
  rw [← String.toList_inj, normalizedValue, blankedValue, joinedValue, String.toList_ofList,
    String.toList_ofList]
  constructor
  · intro same c member
    rw [← same] at member
    obtain ⟨d, -, rfl⟩ := List.mem_map.mp member
    exact not_isBreak_toBlank d
  · intro plain
    have noReturn : '\r' ∉ value.toList := fun member => plain '\r' member (.inr (.inr rfl))
    rw [joinLines_of_plain noReturn, map_toBlank_of_plain plain]

section Pieces

variable {attributes : List (String × String)} {pieces : List Piece}

def attributesText (attributes : List (String × String)) : List Char :=
  attributes.flatMap fun a => (attr a.1 a.2).toList

theorem attributesText_cons (a : String × String) (attributes : List (String × String)) :
    attributesText (a :: attributes) = (attr a.1 a.2).toList ++ attributesText attributes :=
  List.flatMap_cons

theorem not_mem_of_isXmlName {name : String} (named : isXmlName name) (other : continuesName c = false) :
    c ∉ name.toList := by
  intro member
  rw [forall_continuesName named c member] at other
  contradiction

theorem joinLines_attributesText (keys : ∀ key ∈ attributes.map (·.1), isXmlName key) :
    joinLines false (attributesText attributes ++ rest) =
      attributesText (attributes.map fun a => (a.1, joinedValue a.2)) ++ joinLines false rest := by
  induction attributes with
  | nil => rfl
  | cons a attributes ih =>
      rw [List.map_cons, List.forall_mem_cons] at keys
      obtain ⟨first, others⟩ := keys
      have noReturn : '\r' ∉ ' ' :: a.1.toList ++ ['='] ++ ['"'] := by
        simpa using not_mem_of_isXmlName (c := '\r') first (by decide)
      have shape (value : String) (behind : List Char) : (attr a.1 value).toList ++ behind =
          (' ' :: a.1.toList ++ ['='] ++ ['"']) ++ (escapeChars value.toList ++ '"' :: behind) := by
        simp [toList_attr]
      rw [List.map_cons, attributesText_cons, attributesText_cons, List.append_assoc, List.append_assoc, shape,
        shape, joinLines_append_of_plain noReturn, joinLines_escapeChars (by decide),
        joinLines_other (by decide) (by decide), ih others, joinedValue, String.toList_ofList]

theorem joinLines_tag_text {tag : Tag} (named : tag.Named) :
    joinLines false (tag.text ++ rest) = (tag.mapValues joinedValue).text ++ joinLines false rest := by
  cases tag with
  | opening name attributes isEmpty =>
      obtain ⟨isName, keys, -⟩ := named
      have noReturn : '\r' ∉ '<' :: name.toList := by
        simpa using not_mem_of_isXmlName (c := '\r') isName (by decide)
      have noReturnBehind : '\r' ∉ (if isEmpty then ['/'] else []) ++ ['>'] := by
        cases isEmpty <;> decide
      have shape (attributes : List (String × String)) (behind : List Char) :
          (Tag.opening name attributes isEmpty).text ++ behind = ('<' :: name.toList) ++
            (attributesText attributes ++ (((if isEmpty then ['/'] else []) ++ ['>']) ++ behind)) := by
        simp [Tag.text, tagText, attributesText]
      rw [Tag.mapValues, shape, shape, joinLines_append_of_plain noReturn, joinLines_attributesText keys,
        joinLines_append_of_plain noReturnBehind]
  | closing name =>
      have isName : isXmlName name := named
      have noReturn : '\r' ∉ (Tag.closing name).text := by
        simpa [Tag.text] using not_mem_of_isXmlName (c := '\r') isName (by decide)
      exact joinLines_append_of_plain noReturn
  | instruction text => contradiction

/-- Joining the lines of a document joins those in its values. -/
theorem joinLines_piecesText (plain : ∀ p ∈ pieces, '\r' ∉ p.before) (named : ∀ p ∈ pieces, p.tag.Named) :
    joinLines false (piecesText pieces ++ rest) =
      piecesText (pieces.map (·.mapValues joinedValue)) ++ joinLines false rest := by
  induction pieces with
  | nil => rfl
  | cons p pieces ih =>
      obtain ⟨plainFirst, plainRest⟩ := List.forall_mem_cons.mp plain
      obtain ⟨namedFirst, namedRest⟩ := List.forall_mem_cons.mp named
      rw [List.map_cons, piecesText_cons, piecesText_cons, List.append_assoc, List.append_assoc,
        joinLines_append_of_plain plainFirst, joinLines_tag_text namedFirst, ih plainRest namedRest,
        List.append_assoc, List.append_assoc]
      rfl

end Pieces

end SpecTest.Markup
