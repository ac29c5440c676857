import SpecTest.Proofs.Markup.Entities
import SpecTest.Proofs.Text.Digits
import SpecTest.Proofs.Text.Splitting

/-!
Reading the tags of a document.

A tag reaches from an opening bracket to the next closing one.  Escaped values have neither, so that the
tags of a document are read back as they were written, whatever the values look like.
-/

namespace SpecTest.Markup

open SpecTest.Text

inductive Tag where
  /-- Begins an element, and ends it too if the element is empty. -/
  | opening (name : String) (attributes : List (String × String)) (isEmpty : Bool)
  | closing (name : String)
  | instruction (text : String)
deriving DecidableEq, Repr

def isNameChar (c : Char) : Bool := !" \t\r\n<>=\"/?".toList.contains c

def IsName (name : String) : Prop := name.toList ≠ [] ∧ name.toList.all isNameChar = true

instance (name : String) : Decidable (IsName name) := inferInstanceAs (Decidable (_ ∧ _))

/-- The attributes in a text that was cut at its quotes: names and values in turn. -/
def pairUp : List (List Char) → List (String × String)
  | name :: value :: rest =>
    (String.ofList (name.filter isNameChar), String.ofList value) :: pairUp rest
  | _ => []

def readAttributes (text : List Char) : List (String × String) := pairUp (splitAt '"' text)

/-- The tag that has this text between its brackets. -/
def readTag (inside : List Char) : Tag :=
  match inside with
  | '/' :: name => .closing (String.ofList name)
  | '?' :: text => .instruction (String.ofList text)
  | _ => .opening (String.ofList (inside.takeWhile isNameChar))
    (readAttributes (inside.dropWhile isNameChar)) (inside.getLast? = some '/')

def tagsOf : List Char → List Tag
  | [] => []
  | c :: rest =>
    if c = '<' then readTag (rest.takeWhile (· ≠ '>')) :: tagsOf rest else tagsOf rest

def Tag.begins (name : String) : Tag → Bool
  | .opening other _ _ => other == name
  | _ => false

def Tag.attribute? (name : String) : Tag → Option String
  | .opening _ attributes _ => attributes.lookup name
  | _ => none

/-- The elements of this name in a document. -/
def elementCount (name document : String) : Nat := (tagsOf document.toList).countP (·.begins name)

/-- The attributes of a tag as they stand in its text. -/
def escapeValues (attributes : List (String × String)) : List (String × String) :=
  attributes.map fun a => (a.1, escape a.2)

/-- The text between the brackets of a tag that begins an element. -/
def tagText (name : String) (attributes : List (String × String)) (isEmpty : Bool) : List Char :=
  name.toList ++ (attributes.flatMap (fun a => (attr a.1 a.2).toList) ++ if isEmpty then ['/'] else [])

section Escaping

theorem escapeChars_of_plain {text : List Char} (plain : ∀ c ∈ ['&', '<', '>', '"', '\''], c ∉ text) :
    escapeChars text = text := by
  simp only [List.forall_mem_cons, List.not_mem_nil, false_implies, implies_true, and_true] at plain
  obtain ⟨ampersand, less, greater, quote, apostrophe⟩ := plain
  simp only [escapeChars, replaceChar_absent, ampersand, less, greater, quote, apostrophe,
    not_false_eq_true]

theorem escape_toString (n : Nat) : escape (toString n) = toString n := by
  have plain : ∀ c ∈ ['&', '<', '>', '"', '\''], c ∉ Nat.toDigits 10 n := by
    intro c member
    refine not_mem_toDigits ?_ n
    simp only [List.mem_cons, List.not_mem_nil, or_false] at member
    rcases member with rfl | rfl | rfl | rfl | rfl <;> decide
  rw [escape, Nat.toString_eq_repr, Nat.toList_repr, escapeChars_of_plain plain, ← Nat.toList_repr,
    String.ofList_toList]

end Escaping

section Writing

variable {name : String} {attributes : List (String × String)} {isEmpty : Bool}

theorem toList_attr (name value : String) : (attr name value).toList =
    (' ' :: name.toList ++ ['=']) ++ '"' :: (escapeChars value.toList ++ ['"']) := by
  simp [attr, escape]

theorem not_mem_escapeChars {c : Char} (mark : c = '<' ∨ c = '>' ∨ c = '"') (text : List Char) :
    c ∉ escapeChars text := by
  rcases mark with rfl | rfl | rfl <;> simp [escapeChars, mem_replaceChar]

theorem IsName.forall_char (named : IsName name) : ∀ c ∈ name.toList, isNameChar c :=
  List.all_eq_true.mp named.2

theorem IsName.not_mem {c : Char} (named : IsName name) (other : isNameChar c = false) :
    c ∉ name.toList := by
  intro member
  rw [named.forall_char c member] at other
  contradiction

theorem IsName.not_mem_attr {c : Char} (named : IsName name) (bracket : c = '<' ∨ c = '>')
    (value : String) : c ∉ (attr name value).toList := by
  have inValue : c ∉ escapeChars value.toList := not_mem_escapeChars (bracket.imp_right .inl) _
  rw [toList_attr]
  rcases bracket with rfl | rfl
  · simpa [inValue] using named.not_mem (c := '<') (by decide)
  · simpa [inValue] using named.not_mem (c := '>') (by decide)

/-- The text of a tag has no bracket, so that the tag ends where it was closed. -/
theorem not_mem_tagText {c : Char} (bracket : c = '<' ∨ c = '>') (named : IsName name)
    (keys : ∀ a ∈ attributes, IsName a.1) : c ∉ tagText name attributes isEmpty := by
  have inName : c ∉ name.toList := by
    refine named.not_mem ?_
    rcases bracket with rfl | rfl <;> decide
  have inAttributes : c ∉ attributes.flatMap fun a => (attr a.1 a.2).toList := by
    rw [List.mem_flatMap]
    intro found
    obtain ⟨a, member, inside⟩ := found
    exact (keys a member).not_mem_attr bracket a.2 inside
  have inEnd : c ∉ if isEmpty then ['/'] else [] := by
    rcases bracket with rfl | rfl <;> cases isEmpty <;> decide
  simp only [tagText, List.mem_append, not_or]
  exact ⟨inName, inAttributes, inEnd⟩

end Writing

section Reading

variable {name : String} {attributes : List (String × String)} {isEmpty : Bool}

theorem readAttributes_append_attr (named : IsName name) (value : String) (rest : List Char) :
    readAttributes ((attr name value).toList ++ rest) = (name, escape value) :: readAttributes rest := by
  have noQuote : '"' ∉ ' ' :: name.toList ++ ['='] := by
    simpa using named.not_mem (c := '"') (by decide)
  have kept : (' ' :: name.toList ++ ['=']).filter isNameChar = name.toList := by
    have all : name.toList.filter isNameChar = name.toList := List.filter_eq_self.mpr named.forall_char
    have blank : isNameChar ' ' = false := by decide
    have equals : isNameChar '=' = false := by decide
    simp [blank, equals, all]
  have shape : (attr name value).toList ++ rest =
      (' ' :: name.toList ++ ['=']) ++ '"' :: (escapeChars value.toList ++ '"' :: rest) := by
    simp [toList_attr]
  have cut : splitAt '"' ((attr name value).toList ++ rest) =
      (' ' :: name.toList ++ ['=']) :: escapeChars value.toList :: splitAt '"' rest := by
    rw [shape, splitAt_append_sep, splitAt_append_sep, splitAt_of_plain noQuote,
      splitAt_of_plain (not_mem_escapeChars (by simp) _)]
    rfl
  rw [readAttributes, cut, pairUp, kept, String.ofList_toList]
  rfl

theorem readAttributes_flatMap (keys : ∀ a ∈ attributes, IsName a.1) {rest : List Char}
    (plain : '"' ∉ rest) :
    readAttributes (attributes.flatMap (fun a => (attr a.1 a.2).toList) ++ rest) =
      escapeValues attributes := by
  induction attributes with
  | nil => simp [readAttributes, splitAt_of_plain plain, pairUp, escapeValues]
  | cons a attributes ih =>
      rw [List.flatMap_cons, List.append_assoc, readAttributes_append_attr (keys a List.mem_cons_self),
        ih fun b member => keys b (List.mem_cons_of_mem a member)]
      rfl

/-- Behind the name of a tag stand its attributes, each behind a blank, or its end. -/
theorem behindName_stops (attributes : List (String × String)) (isEmpty : Bool) :
    ∀ c ∈ (attributes.flatMap (fun a => (attr a.1 a.2).toList) ++
      if isEmpty then ['/'] else []).head?, isNameChar c = false := by
  cases attributes with
  | nil =>
      intro c starts
      cases isEmpty with
      | false => simp at starts
      | true =>
          have slash : c = '/' := by simpa [eq_comm] using starts
          rw [slash]
          decide
  | cons a attributes =>
      intro c starts
      have blank : c = ' ' := by simpa [toList_attr, eq_comm] using starts
      rw [blank]
      decide

theorem getLast?_tagText (named : IsName name) (attributes : List (String × String)) (isEmpty : Bool) :
    (tagText name attributes isEmpty).getLast? = some '/' ↔ isEmpty = true := by
  cases isEmpty with
  | true => simp [tagText]
  | false =>
      rcases List.eq_nil_or_concat attributes with rfl | ⟨front, a, rfl⟩
      · have noSlash := named.not_mem (c := '/') (by decide)
        simpa [tagText] using fun ends => noSlash (List.mem_of_getLast? ends)
      · simp [tagText, toList_attr, List.getLast?_cons]

theorem readTag_tagText (named : IsName name) (keys : ∀ a ∈ attributes, IsName a.1) :
    readTag (tagText name attributes isEmpty) =
      .opening name (escapeValues attributes) isEmpty := by
  obtain ⟨c, cs, letters⟩ := List.exists_cons_of_ne_nil named.1
  have isLetter : isNameChar c := named.forall_char c (by simp [letters])
  have starts : (tagText name attributes isEmpty).head? = some c := by simp [tagText, letters]
  have front : (tagText name attributes isEmpty).takeWhile isNameChar = name.toList :=
    (span_append named.forall_char (behindName_stops attributes isEmpty)).1
  have behind : (tagText name attributes isEmpty).dropWhile isNameChar =
      attributes.flatMap (fun a => (attr a.1 a.2).toList) ++ if isEmpty then ['/'] else [] :=
    (span_append named.forall_char (behindName_stops attributes isEmpty)).2
  have ends : decide ((tagText name attributes isEmpty).getLast? = some '/') = isEmpty := by
    simp [getLast?_tagText named]
  have noQuote : '"' ∉ if isEmpty then ['/'] else [] := by cases isEmpty <;> decide
  -- A name starts with neither mark of the other tags, so that the tag is read as one that opens.
  rw [readTag]
  · rw [front, behind, ends, readAttributes_flatMap keys noQuote, String.ofList_toList]
  · intro rest closing
    rw [closing] at starts
    cases starts
    exact absurd isLetter (by decide)
  · intro rest instruction
    rw [instruction] at starts
    cases starts
    exact absurd isLetter (by decide)

theorem tagsOf_append_of_plain {front : List Char} (plain : '<' ∉ front) (rest : List Char) :
    tagsOf (front ++ rest) = tagsOf rest := by
  induction front with
  | nil => rfl
  | cons c front ih =>
      simp only [List.mem_cons, not_or] at plain
      rw [List.cons_append, tagsOf, if_neg (Ne.symm plain.1), ih plain.2]

/-- A tag is read up to the bracket that closes it, and reading goes on behind that. -/
theorem tagsOf_tag {inside : List Char} (noLess : '<' ∉ inside) (noGreater : '>' ∉ inside)
    (rest : List Char) : tagsOf ('<' :: (inside ++ '>' :: rest)) = readTag inside :: tagsOf rest := by
  rw [tagsOf, if_pos rfl, takeWhile_append_sep noGreater, tagsOf_append_of_plain noLess, tagsOf,
    if_neg (by decide)]

theorem tagsOf_tagText (named : IsName name) (keys : ∀ a ∈ attributes, IsName a.1) (rest : List Char) :
    tagsOf ('<' :: (tagText name attributes isEmpty ++ '>' :: rest)) =
      .opening name (escapeValues attributes) isEmpty :: tagsOf rest := by
  rw [tagsOf_tag (not_mem_tagText (by simp) named keys) (not_mem_tagText (by simp) named keys),
    readTag_tagText named keys]

end Reading

end SpecTest.Markup
