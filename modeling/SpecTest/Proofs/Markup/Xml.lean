import SpecTest.Proofs.Markup.LineBreaks

/-!
A strict reader of documents, and when it reads those that were written as pieces.

It knows elements with attributes, text and references behind the declaration that reports have.  It refuses
what is not well-formed, and also instructions, comments, sections of raw text and types of documents, which
reports do not have.
-/

namespace SpecTest.Markup.Xml

open SpecTest.Text SpecTest.Unicode

section Reader

def isBlank (c : Char) : Bool := c = ' ' || c = '\t' || c = '\n' || c = '\r'

def skipBlanks (cs : List Char) : List Char := cs.dropWhile isBlank

def readName? : List Char → Option (String × List Char)
  | [] => none
  | c :: rest =>
    if startsName c then
      some (String.ofList (c :: rest.takeWhile continuesName), rest.dropWhile continuesName)
    else none

def readEquals? (cs : List Char) : Option (List Char) :=
  match skipBlanks cs with
  | '=' :: rest => some (skipBlanks rest)
  | _ => none

/-- Reads a value up to the quote that it began with.  Its blanks are made alike before its references are
replaced, so that a line break that a reference stands for is kept. -/
def readValue? : List Char → Option (String × List Char)
  | [] => none
  | quote :: rest =>
    if quote = '"' ∨ quote = '\'' then
      match rest.dropWhile (· ≠ quote) with
      | [] => none
      | _ :: behind =>
        let raw := rest.takeWhile (· ≠ quote)
        if '<' ∈ raw then none
        else (readReferences none (raw.map toBlank)).map fun value => (String.ofList value, behind)
    else none

/-- Reads attributes, each behind a blank, and the blanks behind them. -/
def readAttributes? : Nat → List Char → Option (List (String × String) × List Char)
  | 0, _ => none
  | fuel + 1, cs =>
    match readName? (skipBlanks cs) with
    | none => some ([], skipBlanks cs)
    | some (name, rest) =>
      if skipBlanks cs = cs then none
      else do
        let (value, rest) ← readValue? (← readEquals? rest)
        let (others, rest) ← readAttributes? fuel rest
        return ((name, value) :: others, rest)

/-- Reads a tag behind its opening bracket. -/
def readTag? : List Char → Option (Tag × List Char)
  | '/' :: rest => do
    let (name, rest) ← readName? rest
    match skipBlanks rest with
    | '>' :: rest => some (.closing name, rest)
    | _ => none
  | cs => do
    let (name, rest) ← readName? cs
    let (attributes, rest) ← readAttributes? (rest.length + 1) rest
    if ¬ (attributes.map (·.1)).Nodup then none
    else
      match rest with
      | '>' :: rest => some (.opening name attributes false, rest)
      | '/' :: '>' :: rest => some (.opening name attributes true, rest)
      | _ => none

/-- Reads tags with the text in front of each, and the text behind them. -/
def readPieces? : Nat → List Char → Option (List Piece × List Char)
  | 0, _ => none
  | fuel + 1, cs =>
    match cs.dropWhile (· ≠ '<') with
    | [] => some ([], cs)
    | _ :: rest => do
      let (tag, rest) ← readTag? rest
      let (pieces, last) ← readPieces? fuel rest
      return (⟨cs.takeWhile (· ≠ '<'), tag⟩ :: pieces, last)

/-- Is the text that of an element? -/
def isContent (text : List Char) : Bool :=
  !containsRun "]]>".toList text && (readReferences none text).isSome

/-- Do the pieces make one element, in which all elements end in the reverse order of their beginnings?  The
arguments tell whether the outermost element has begun, and which elements have not ended. -/
def nests : Bool → List String → List Piece → Bool
  | begun, [], [] => begun
  | begun, [], ⟨before, .opening name _ isEmpty⟩ :: rest =>
    !begun && before.all isBlank && nests true (if isEmpty then [] else [name]) rest
  | begun, around :: outer, ⟨before, .opening name _ isEmpty⟩ :: rest =>
    isContent before && nests begun (if isEmpty then around :: outer else name :: around :: outer) rest
  | begun, around :: outer, ⟨before, .closing name⟩ :: rest =>
    isContent before && name == around && nests begun outer rest
  | _, _, _ => false

def start : List Char := "<?xml version=\"1.0\" encoding=\"UTF-8\"?>".toList

/-- Reads the tags of a document with their values, if it is well-formed. -/
def read? (document : String) : Option (List Tag) :=
  if document.toList.all isLegal then do
    let rest ← dropStart? start (joinLines false document.toList)
    let (pieces, last) ← readPieces? (rest.length + 1) rest
    if nests false [] pieces && last.all isBlank then some (pieces.map (·.tag)) else none
  else none

end Reader

section Names

variable {name : String} {rest : List Char} {c : Char}

theorem isBlank_of_startsName (starts : startsName c) : isBlank c = false := by
  refine Bool.eq_false_iff.mpr fun blank => ?_
  simp only [isBlank, Bool.or_eq_true, decide_eq_true_eq] at blank
  rcases blank with ((rfl | rfl) | rfl) | rfl
  · exact absurd starts (by decide)
  · exact absurd starts (by decide)
  · exact absurd starts (by decide)
  · exact absurd starts (by decide)

theorem skipBlanks_of_not_blank (notBlank : isBlank c = false) : skipBlanks (c :: rest) = c :: rest := by
  simp [skipBlanks, notBlank]

theorem readName?_append (named : isXmlName name) (stops : ∀ c ∈ rest.head?, continuesName c = false) :
    readName? (name.toList ++ rest) = some (name, rest) := by
  obtain ⟨c, letters, spelled, starts, continues⟩ := exists_of_isXmlName named
  obtain ⟨front, behind⟩ := span_append (p := continuesName) continues stops
  rw [spelled, List.cons_append, readName?, if_pos starts, front, behind, ← spelled, String.ofList_toList]

theorem skipBlanks_name (named : isXmlName name) (rest : List Char) :
    skipBlanks (name.toList ++ rest) = name.toList ++ rest := by
  obtain ⟨c, letters, spelled, starts, -⟩ := exists_of_isXmlName named
  rw [spelled]
  exact skipBlanks_of_not_blank (isBlank_of_startsName starts)

end Names

section Tags

variable {attributes : List (String × String)} {pieces : List Piece} {rest : List Char}

/-- A value is read back but for its tabs and line breaks. -/
theorem readValue?_escape (value : String) (rest : List Char) :
    readValue? ('"' :: (escapeChars value.toList ++ '"' :: rest)) = some (blankedValue value, rest) := by
  have noQuote : '"' ∉ escapeChars value.toList := not_mem_escapeChars (by simp) _
  have noLess : '<' ∉ escapeChars value.toList := not_mem_escapeChars (by simp) _
  have read := readReferences_escapeChars (value.toList.map toBlank) []
  rw [List.append_nil, readReferences, Option.map_some, List.append_nil] at read
  rw [readValue?, if_pos (.inl rfl), dropWhile_append_sep noQuote]
  simp only [takeWhile_append_sep noQuote, if_neg noLess, map_toBlank_escapeChars, read, Option.map_some]
  rfl

theorem readEquals?_quote (rest : List Char) : readEquals? ('=' :: '"' :: rest) = some ('"' :: rest) := by
  rw [readEquals?, skipBlanks_of_not_blank (by decide)]
  exact congrArg some (skipBlanks_of_not_blank (by decide))

/-- The attributes of a tag are read up to a character that is no blank and starts no name. -/
theorem readAttributes?_attributesText (keys : ∀ key ∈ attributes.map (·.1), isXmlName key) {c : Char}
    (notBlank : isBlank c = false) (noName : startsName c = false) {fuel : Nat}
    (enough : attributes.length < fuel) :
    readAttributes? fuel (attributesText attributes ++ c :: rest) =
      some (attributes.map fun a => (a.1, blankedValue a.2), c :: rest) := by
  induction attributes generalizing fuel with
  | nil =>
      obtain ⟨fuel, rfl⟩ : ∃ n, fuel = n + 1 := ⟨fuel - 1, by simp at enough; omega⟩
      have noMore : readName? (c :: rest) = none := by simp [readName?, noName]
      rw [attributesText, List.flatMap_nil, List.nil_append, readAttributes?,
        skipBlanks_of_not_blank notBlank, noMore]
      rfl
  | cons a attributes ih =>
      obtain ⟨fuel, rfl⟩ : ∃ n, fuel = n + 1 := ⟨fuel - 1, by simp at enough; omega⟩
      rw [List.map_cons, List.forall_mem_cons] at keys
      obtain ⟨first, others⟩ := keys
      have shape : attributesText (a :: attributes) ++ c :: rest = ' ' :: (a.1.toList ++
          '=' :: '"' :: (escapeChars a.2.toList ++ '"' :: (attributesText attributes ++ c :: rest))) := by
        simp [attributesText_cons, toList_attr]
      have skipped (behind : List Char) :
          skipBlanks (' ' :: (a.1.toList ++ behind)) = a.1.toList ++ behind := skipBlanks_name first behind
      have differs (behind : List Char) : ¬ a.1.toList ++ behind = ' ' :: (a.1.toList ++ behind) := by
        intro same
        have sameLength := congrArg List.length same
        simp at sameLength
      rw [shape, readAttributes?, skipped, readName?_append first (by simp; decide)]
      dsimp only
      rw [if_neg (differs _), readEquals?_quote]
      simp only [Option.bind_eq_bind, Option.bind_some, readValue?_escape,
        ih others (by simpa using enough)]
      rfl

theorem length_attributesText_le (attributes : List (String × String)) :
    attributes.length ≤ (attributesText attributes).length := by
  induction attributes with
  | nil => simp
  | cons a attributes ih =>
      rw [attributesText_cons, List.length_append, toList_attr]
      simp
      omega

theorem attributesText_stops {c : Char} (noName : continuesName c = false)
    (attributes : List (String × String)) (rest : List Char) :
    ∀ d ∈ (attributesText attributes ++ c :: rest).head?, continuesName d = false := by
  cases attributes with
  | nil => simpa [attributesText] using noName
  | cons a attributes =>
      rw [attributesText_cons, toList_attr]
      simp
      decide

/-- What stands behind the name of a tag is read up to the end of the tag. -/
theorem readAttributes?_behindName (keys : ∀ key ∈ attributes.map (·.1), isXmlName key) {c : Char}
    (notBlank : isBlank c = false) (noName : startsName c = false) (rest : List Char) :
    readAttributes? ((attributesText attributes ++ c :: rest).length + 1)
        (attributesText attributes ++ c :: rest) =
      some (attributes.map fun a => (a.1, blankedValue a.2), c :: rest) := by
  apply readAttributes?_attributesText keys notBlank noName
  have fewer := length_attributesText_le attributes
  rw [List.length_append]
  omega

theorem readTag?_text {tag : Tag} (named : tag.Named) (rest : List Char) :
    ∃ inside, tag.text = '<' :: inside ∧
      readTag? (inside ++ rest) = some (tag.mapValues blankedValue, rest) := by
  cases tag with
  | opening name attributes isEmpty =>
      obtain ⟨isName, keys, distinct⟩ := named
      have distinctStill : ((attributes.map fun a => (a.1, blankedValue a.2)).map (·.1)).Nodup := by
        rwa [List.map_map]
      have notClosing : ∀ behind more, name.toList ++ behind ≠ '/' :: more := by
        obtain ⟨c, letters, spelled, starts, -⟩ := exists_of_isXmlName isName
        intro behind more closing
        rw [spelled, List.cons_append, List.cons.injEq] at closing
        rw [closing.1] at starts
        exact absurd starts (by decide)
      refine ⟨tagText name attributes isEmpty ++ ['>'], rfl, ?_⟩
      cases isEmpty with
      | true =>
          have shape : tagText name attributes true ++ ['>'] ++ rest =
              name.toList ++ (attributesText attributes ++ '/' :: '>' :: rest) := by
            simp [tagText, attributesText]
          rw [shape, readTag?, readName?_append isName (attributesText_stops (by decide) _ _)]
          · simp only [Option.bind_eq_bind, Option.bind_some,
              readAttributes?_behindName keys (c := '/') (by decide) (by decide), distinctStill,
              not_true_eq_false, if_false]
            rfl
          · exact notClosing _
      | false =>
          have shape : tagText name attributes false ++ ['>'] ++ rest =
              name.toList ++ (attributesText attributes ++ '>' :: rest) := by
            simp [tagText, attributesText]
          rw [shape, readTag?, readName?_append isName (attributesText_stops (by decide) _ _)]
          · simp only [Option.bind_eq_bind, Option.bind_some,
              readAttributes?_behindName keys (c := '>') (by decide) (by decide), distinctStill,
              not_true_eq_false, if_false]
            rfl
          · exact notClosing _
  | closing name =>
      have isName : isXmlName name := named
      refine ⟨'/' :: (name.toList ++ ['>']), rfl, ?_⟩
      rw [List.cons_append, List.append_assoc, readTag?, readName?_append isName (by simp; decide)]
      rfl
  | instruction text => contradiction

theorem readPieces?_piecesText (plain : ∀ p ∈ pieces, '<' ∉ p.before) (named : ∀ p ∈ pieces, p.tag.Named)
    {last : List Char} (lastPlain : '<' ∉ last) {fuel : Nat} (enough : pieces.length < fuel) :
    readPieces? fuel (piecesText pieces ++ last) = some (pieces.map (·.mapValues blankedValue), last) := by
  induction pieces generalizing fuel with
  | nil =>
      obtain ⟨fuel, rfl⟩ : ∃ n, fuel = n + 1 := ⟨fuel - 1, by simp at enough; omega⟩
      rw [piecesText, List.flatMap_nil, List.nil_append, readPieces?, dropWhile_of_plain lastPlain]
      rfl
  | cons p pieces ih =>
      obtain ⟨fuel, rfl⟩ : ∃ n, fuel = n + 1 := ⟨fuel - 1, by simp at enough; omega⟩
      obtain ⟨plainFirst, plainRest⟩ := List.forall_mem_cons.mp plain
      obtain ⟨namedFirst, namedRest⟩ := List.forall_mem_cons.mp named
      obtain ⟨inside, written, read⟩ := readTag?_text namedFirst (piecesText pieces ++ last)
      rw [piecesText_cons, List.append_assoc, List.append_assoc, written, List.cons_append, readPieces?,
        dropWhile_append_sep plainFirst, takeWhile_append_sep plainFirst]
      simp only [Option.bind_eq_bind, Option.bind_some, read,
        ih plainRest namedRest (by simpa using enough)]
      rfl

theorem length_piecesText_le (pieces : List Piece) : pieces.length ≤ (piecesText pieces).length := by
  induction pieces with
  | nil => simp
  | cons p pieces ih =>
      rw [piecesText_cons, List.length_cons, List.length_append, List.length_append]
      have bracket : 0 < p.tag.text.length := by
        cases p.tag <;> simp [Tag.text]
      omega

/-- How elements lie in each other does not depend on the values of their attributes. -/
theorem nests_mapValues (f : String → String) (begun : Bool) (outer : List String) :
    nests begun outer (pieces.map (·.mapValues f)) = nests begun outer pieces := by
  induction pieces generalizing begun outer with
  | nil => rfl
  | cons p pieces ih =>
      obtain ⟨before, tag⟩ := p
      cases tag with
      | opening name attributes isEmpty =>
          cases outer with
          | nil => exact congrArg (!begun && before.all isBlank && ·) (ih _ _)
          | cons around outer => exact congrArg (isContent before && ·) (ih _ _)
      | closing name =>
          cases outer with
          | nil => rfl
          | cons around outer => exact congrArg (isContent before && name == around && ·) (ih _ _)
      | instruction text => cases outer <;> rfl

end Tags

section Nesting

variable {name around : String} {attributes : List (String × String)} {isEmpty begun : Bool}
  {outer : List String} {pieces : List Piece} {text : List Char}

theorem readReferences_of_plain (plain : '&' ∉ text) : readReferences none text = some text := by
  induction text with
  | nil => rfl
  | cons c text ih =>
      simp only [List.mem_cons, not_or] at plain
      rw [readReferences, if_neg (Ne.symm plain.1), ih plain.2, Option.map_some]

theorem isContent_of_blank (blank : text.all isBlank) : isContent text = true := by
  have only {c : Char} (mark : isBlank c = false) : c ∉ text := by
    intro member
    rw [List.all_eq_true.mp blank c member] at mark
    contradiction
  have noEnd : containsRun "]]>".toList text = false := by
    refine Bool.eq_false_iff.mpr fun contained => ?_
    have run := containsRun_iff.mp contained
    exact only (c := '>') (by decide) (run.subset (by decide))
  rw [isContent, noEnd, readReferences_of_plain (only (by decide))]
  rfl

theorem all_isBlank_line (indent : Nat) : ('\n' :: List.replicate indent ' ').all isBlank = true := by
  rw [List.all_cons, List.all_replicate]
  simp [isBlank]

theorem nests_root (indent : Nat) : nests false [] (.line indent (.opening name attributes isEmpty) :: pieces) =
    nests true (if isEmpty then [] else [name]) pieces := by
  rw [Piece.line, nests, all_isBlank_line]
  rfl

theorem nests_opening (indent : Nat) :
    nests begun (around :: outer) (.line indent (.opening name attributes isEmpty) :: pieces) =
      nests begun (if isEmpty then around :: outer else name :: around :: outer) pieces := by
  rw [Piece.line, nests, isContent_of_blank (all_isBlank_line indent), Bool.true_and]

theorem nests_closing (indent : Nat) :
    nests begun (name :: outer) (.line indent (.closing name) :: pieces) = nests begun outer pieces := by
  rw [Piece.line, nests, isContent_of_blank (all_isBlank_line indent), beq_self_eq_true, Bool.true_and,
    Bool.true_and]

end Nesting

section Characters

variable {c : Char} {attributes : List (String × String)} {pieces : List Piece}

theorem isLegal_of_continuesName (continues : continuesName c) : isLegal c := by
  simp only [continuesName, startsName, nameStarts, nameMarks, CharSet.contains, CharSet.hasCode,
    List.any_cons, List.any_nil, Bool.or_eq_true, Bool.and_eq_true, decide_eq_true_eq, Bool.or_false] at continues
  rw [isLegal_iff]
  omega

theorem all_isLegal_name {name : String} (named : isXmlName name) : name.toList.all isLegal = true :=
  List.all_eq_true.mpr fun c member => isLegal_of_continuesName (forall_continuesName named c member)

theorem all_isLegal_escapeChar (c : Char) : (escapeChars [c]).all isLegal = isLegal c := by
  have entity : ∀ e ∈ entities, ('&' :: (e.1.toList ++ [';'])).all isLegal = isLegal e.2 := by decide
  rcases escapeChar_cases c with ⟨plain, -⟩ | ⟨e, listed, rfl, written⟩
  · rw [plain, List.all_cons, List.all_nil, Bool.and_true]
  · rw [written]
    exact entity e listed

theorem all_isLegal_escapeChars (text : List Char) : (escapeChars text).all isLegal = text.all isLegal := by
  induction text with
  | nil => rfl
  | cons c text ih => rw [escapeChars_cons, List.all_append, all_isLegal_escapeChar, ih, List.all_cons]

theorem all_isLegal_attributesText (keys : ∀ key ∈ attributes.map (·.1), isXmlName key) :
    (attributesText attributes).all isLegal = (attributes.map (·.2)).all (·.toList.all isLegal) := by
  induction attributes with
  | nil => rfl
  | cons a attributes ih =>
      rw [List.map_cons, List.forall_mem_cons] at keys
      have marks : isLegal ' ' = true ∧ isLegal '=' = true ∧ isLegal '"' = true := by decide
      obtain ⟨blank, equals, quote⟩ := marks
      rw [attributesText_cons, List.all_append, ih keys.2, toList_attr]
      simp [all_isLegal_name keys.1, all_isLegal_escapeChars, blank, equals, quote]

/-- The names and marks of a tag are legal, so that only its values can make it illegal. -/
theorem all_isLegal_text {tag : Tag} (named : tag.Named) :
    tag.text.all isLegal = tag.values.all (·.toList.all isLegal) := by
  have marks : isLegal '<' = true ∧ isLegal '>' = true ∧ isLegal '/' = true := by decide
  obtain ⟨less, greater, slash⟩ := marks
  cases tag with
  | opening name attributes isEmpty =>
      obtain ⟨isName, keys, -⟩ := named
      have shape : (Tag.opening name attributes isEmpty).text = '<' :: (name.toList ++
          (attributesText attributes ++ ((if isEmpty then ['/'] else []) ++ ['>']))) := by
        simp [Tag.text, tagText, attributesText]
      rw [shape, Tag.values, ← all_isLegal_attributesText keys]
      cases isEmpty <;> simp [all_isLegal_name isName, less, greater, slash]
  | closing name =>
      have isName : isXmlName name := named
      simp [Tag.text, Tag.values, all_isLegal_name isName, less, greater, slash]
  | instruction text => contradiction

def piecesValues (pieces : List Piece) : List String := pieces.flatMap (·.tag.values)

theorem piecesValues_cons (p : Piece) (pieces : List Piece) :
    piecesValues (p :: pieces) = p.tag.values ++ piecesValues pieces :=
  List.flatMap_cons

theorem piecesValues_append (pieces others : List Piece) :
    piecesValues (pieces ++ others) = piecesValues pieces ++ piecesValues others :=
  List.flatMap_append

theorem all_isLegal_piecesText (before : ∀ p ∈ pieces, p.before.all isLegal)
    (named : ∀ p ∈ pieces, p.tag.Named) :
    (piecesText pieces).all isLegal = (piecesValues pieces).all (·.toList.all isLegal) := by
  induction pieces with
  | nil => rfl
  | cons p pieces ih =>
      obtain ⟨beforeFirst, beforeRest⟩ := List.forall_mem_cons.mp before
      obtain ⟨namedFirst, namedRest⟩ := List.forall_mem_cons.mp named
      rw [piecesText_cons, List.all_append, List.all_append, beforeFirst, all_isLegal_text namedFirst,
        ih beforeRest namedRest, piecesValues_cons, List.all_append, Bool.true_and]

end Characters

/-- The document has these pieces behind its declaration, each on a line of its own, and they make one
element. -/
structure WrittenAs (document : String) (pieces : List Piece) : Prop where
  text : document.toList = start ++ (piecesText pieces ++ ['\n'])
  lines : ∀ p ∈ pieces, ∃ indent tag, p = .line indent tag
  named : ∀ p ∈ pieces, p.tag.Named
  nested : nests false [] pieces = true

namespace WrittenAs

variable {document : String} {pieces : List Piece}

theorem mem_before (written : WrittenAs document pieces) :
    ∀ p ∈ pieces, ∀ c ∈ p.before, c = '\n' ∨ c = ' ' := by
  intro p listed c member
  obtain ⟨indent, tag, rfl⟩ := written.lines p listed
  rcases List.mem_cons.mp member with feed | blank
  · exact .inl feed
  · exact .inr (List.eq_of_mem_replicate blank)

theorem not_mem_before (written : WrittenAs document pieces) {c : Char} (notFeed : c ≠ '\n')
    (notBlank : c ≠ ' ') : ∀ p ∈ pieces, c ∉ p.before := by
  intro p listed member
  rcases written.mem_before p listed c member with feed | blank
  · exact notFeed feed
  · exact notBlank blank

theorem all_isLegal (written : WrittenAs document pieces) :
    document.toList.all isLegal = (piecesValues pieces).all (·.toList.all isLegal) := by
  have before : ∀ p ∈ pieces, p.before.all isLegal := by
    intro p listed
    refine List.all_eq_true.mpr fun c member => ?_
    rcases written.mem_before p listed c member with rfl | rfl
    · decide
    · decide
  have begins : start.all isLegal = true := by decide
  have ends : ['\n'].all isLegal = true := by decide
  rw [written.text, List.all_append, List.all_append, begins, ends,
    all_isLegal_piecesText before written.named, Bool.true_and, Bool.and_true]

theorem joinLines_eq (written : WrittenAs document pieces) :
    joinLines false document.toList =
      start ++ (piecesText (pieces.map (·.mapValues joinedValue)) ++ ['\n']) := by
  rw [written.text, joinLines_append_of_plain (by decide),
    joinLines_piecesText (written.not_mem_before (by decide) (by decide)) written.named]
  rfl

theorem map_mapValues (f g : String → String) :
    (pieces.map (·.mapValues f)).map (·.mapValues g) = pieces.map (·.mapValues (g ∘ f)) := by
  rw [List.map_map]
  refine List.map_congr_left fun p _ => ?_
  obtain ⟨before, tag⟩ := p
  cases tag <;> simp [Piece.mapValues, Tag.mapValues]

/-- A document of legal characters is read with its values normalized. -/
theorem read?_eq (written : WrittenAs document pieces) : read? document =
    if (piecesValues pieces).all (·.toList.all isLegal) then
      some (pieces.map (·.tag.mapValues normalizedValue))
    else none := by
  have dropped : dropStart? start (joinLines false document.toList) =
      some (piecesText (pieces.map (·.mapValues joinedValue)) ++ ['\n']) := by
    rw [written.joinLines_eq, dropStart?, if_pos (by simp), List.drop_left]
  have plain : ∀ p ∈ pieces.map (·.mapValues joinedValue), '<' ∉ p.before :=
    List.forall_mem_map.mpr (written.not_mem_before (by decide) (by decide))
  have named : ∀ p ∈ pieces.map (·.mapValues joinedValue), p.tag.Named := by
    refine List.forall_mem_map.mpr fun p listed => ?_
    exact (written.named p listed).mapValues
  have enough : (pieces.map (·.mapValues joinedValue)).length <
      (piecesText (pieces.map (·.mapValues joinedValue)) ++ ['\n']).length + 1 := by
    have fewer := length_piecesText_le (pieces.map (·.mapValues joinedValue))
    rw [List.length_append]
    omega
  have feedPlain : '<' ∉ ['\n'] := by decide
  have pieced := readPieces?_piecesText plain named feedPlain enough
  rw [map_mapValues] at pieced
  have nested : nests false [] (pieces.map (·.mapValues (blankedValue ∘ joinedValue))) = true :=
    (nests_mapValues _ _ _).trans written.nested
  have blank : ['\n'].all isBlank = true := by decide
  rw [read?, written.all_isLegal]
  split
  · simp only [dropped, pieced, nested, blank, Option.bind_eq_bind, Option.bind_some, Bool.and_self, if_true]
    rw [List.map_map]
    rfl
  · rfl

theorem all_isLegal_iff : (piecesValues pieces).all (·.toList.all Markup.isLegal) = true ↔
    ∀ value ∈ piecesValues pieces, IsLegal value := by
  simp only [List.all_eq_true, IsLegal]

/-- A document is well-formed exactly where its values are legal. -/
theorem isSome_read?_iff (written : WrittenAs document pieces) :
    (read? document).isSome ↔ ∀ value ∈ piecesValues pieces, IsLegal value := by
  rw [written.read?_eq, ← all_isLegal_iff]
  split
  · rename_i legal
    simp [legal]
  · rename_i illegal
    simp [illegal]

/-- The tags of a document are read with the values that were written exactly where these are legal and have
neither line breaks nor tabs. -/
theorem read?_eq_some_iff (written : WrittenAs document pieces) :
    read? document = some (pieces.map (·.tag)) ↔
      ∀ value ∈ piecesValues pieces, IsLegal value ∧ Unbroken value := by
  have same : pieces.map (·.tag.mapValues normalizedValue) = pieces.map (·.tag) ↔
      ∀ value ∈ piecesValues pieces, Unbroken value := by
    rw [List.map_inj_left, piecesValues, List.forall_mem_flatMap]
    refine forall₂_congr fun p _ => ?_
    rw [Tag.mapValues_eq_self_iff]
    exact forall₂_congr fun value _ => normalizedValue_eq_self_iff
  rw [written.read?_eq]
  split
  · rename_i legal
    rw [Option.some.injEq, same]
    have legal := all_isLegal_iff.mp legal
    exact ⟨fun unbroken value listed => ⟨legal value listed, unbroken value listed⟩,
      fun both value listed => (both value listed).2⟩
  · rename_i illegal
    constructor
    · intro impossible
      contradiction
    · intro both
      exact absurd (all_isLegal_iff.mpr fun value listed => (both value listed).1) illegal

end WrittenAs

end SpecTest.Markup.Xml
