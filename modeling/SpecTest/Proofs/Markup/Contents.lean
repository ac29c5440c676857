import SpecTest.Proofs.Markup.Pieces
import SpecTest.Proofs.Markup.References

/-!
Reading a document with its texts: each tag with what stands in front of it, both as they were before they
were escaped.
-/

namespace SpecTest.Markup

open SpecTest.Text

/-- The texts of a document outside its tags: the one in front of the first tag, and one behind each. -/
def textsOf (document : List Char) : List (List Char) :=
  match splitAt '<' document with
  | [] => []
  | first :: others => first :: others.map fun part => (part.dropWhile (· ≠ '>')).tail

def piecesOf (document : List Char) : List Piece :=
  List.zipWith Piece.mk (textsOf document) (tagsOf document)

def Tag.unescape? : Tag → Option Tag
  | .opening name attributes isEmpty => do
    let values ← attributes.mapM fun a => (Markup.unescape? a.2).map (Prod.mk a.1)
    return .opening name values isEmpty
  | tag => some tag

namespace Piece

/-- A piece as it stands in a document where its text was escaped too. -/
def escapeText (p : Piece) : Piece := ⟨escapeChars p.before, p.tag⟩

@[simp] theorem escapeText_mk (before : List Char) (tag : Tag) :
    escapeText ⟨before, tag⟩ = ⟨escapeChars before, tag⟩ := rfl

@[simp] theorem escapeText_line (indent : Nat) (tag : Tag) : (line indent tag).escapeText = line indent tag := by
  rw [escapeText, line, escapeChars_of_plain]
  intro mark listed inside
  rcases List.mem_cons.mp inside with rfl | blank
  · exact absurd listed (by decide)
  · rw [(List.mem_replicate.mp blank).2] at listed
    exact absurd listed (by decide)

def unescape? (p : Piece) : Option Piece := do
  return ⟨← readReferences none p.before, ← p.tag.unescape?⟩

end Piece

def readPieces? (document : String) : Option (List Piece) :=
  (piecesOf document.toList).mapM Piece.unescape?

section Tags

/-- The text of a tag with a name has its brackets at the ends only. -/
theorem Tag.Named.exists_inside {tag : Tag} (named : tag.Named) :
    ∃ inside, tag.text = '<' :: (inside ++ ['>']) ∧ '<' ∉ inside ∧ '>' ∉ inside := by
  cases tag with
  | opening name attributes isEmpty =>
      obtain ⟨isName, keys, -⟩ := named
      have keysNamed : ∀ a ∈ attributes, IsName a.1 := fun a member =>
        isName_of_isXmlName (keys a.1 (List.mem_map_of_mem member))
      exact ⟨tagText name attributes isEmpty, rfl,
        not_mem_tagText (.inl rfl) (isName_of_isXmlName isName) keysNamed,
        not_mem_tagText (.inr rfl) (isName_of_isXmlName isName) keysNamed⟩
  | closing name =>
      have isName := isName_of_isXmlName named
      refine ⟨'/' :: name.toList, rfl, ?_, ?_⟩
      · exact List.not_mem_cons_of_ne_of_not_mem (by decide) (isName.not_mem (by decide))
      · exact List.not_mem_cons_of_ne_of_not_mem (by decide) (isName.not_mem (by decide))
  | instruction text => contradiction

theorem Tag.unescape?_mapValues_escape (tag : Tag) : (tag.mapValues escape).unescape? = some tag := by
  cases tag with
  | opening name attributes isEmpty =>
      have values : (attributes.map fun a => (a.1, escape a.2)).mapM
          (fun a => (Markup.unescape? a.2).map (Prod.mk a.1)) = some attributes := by
        induction attributes with
        | nil => rfl
        | cons a attributes ih =>
            rw [List.map_cons, List.mapM_cons, unescape?_escape, ih]
            rfl
      rw [Tag.mapValues, Tag.unescape?, values]
      rfl
  | closing name => rfl
  | instruction text => rfl

end Tags

section Texts

theorem textsOf_of_plain {text : List Char} (plain : '<' ∉ text) : textsOf text = [text] := by
  rw [textsOf, splitAt_of_plain plain]
  rfl

/-- The text in front of a tag ends where the tag begins, and the next one begins where the tag ends. -/
theorem textsOf_append_tag {before inside : List Char} (plain : '<' ∉ before) (noLess : '<' ∉ inside)
    (noGreater : '>' ∉ inside) (rest : List Char) :
    textsOf (before ++ '<' :: (inside ++ '>' :: rest)) = before :: textsOf rest := by
  have front : '<' ∉ inside ++ ['>'] := by
    rw [List.mem_append, not_or]
    exact ⟨noLess, by decide⟩
  obtain ⟨first, others, cutRest⟩ := List.exists_cons_of_ne_nil (splitAt_ne_nil '<' rest)
  have cutTag : splitAt '<' (inside ++ '>' :: rest) = (inside ++ '>' :: first) :: others := by
    have cut := splitAt_plain_append front cutRest
    rwa [List.append_assoc, List.append_assoc] at cut
  have behind : ((inside ++ '>' :: first).dropWhile (· ≠ '>')).tail = first := by
    rw [dropWhile_append_sep noGreater, List.tail_cons]
  rw [textsOf, textsOf, splitAt_append_sep, splitAt_of_plain plain, cutTag, cutRest]
  simp only [List.cons_append, List.nil_append, List.map_cons, behind]

theorem textsOf_pieces {pieces : List Piece} (plain : ∀ p ∈ pieces, '<' ∉ p.before)
    (named : ∀ p ∈ pieces, p.tag.Named) (rest : List Char) :
    textsOf (piecesText pieces ++ rest) = pieces.map (·.before) ++ textsOf rest := by
  induction pieces with
  | nil => rfl
  | cons p pieces ih =>
      obtain ⟨plainFirst, plainRest⟩ := List.forall_mem_cons.mp plain
      obtain ⟨namedFirst, namedRest⟩ := List.forall_mem_cons.mp named
      obtain ⟨inside, written, noLess, noGreater⟩ := namedFirst.exists_inside
      have shape : piecesText (p :: pieces) ++ rest =
          p.before ++ '<' :: (inside ++ '>' :: (piecesText pieces ++ rest)) := by
        rw [piecesText_cons, written]
        simp
      rw [shape, textsOf_append_tag plainFirst noLess noGreater, ih plainRest namedRest, List.map_cons,
        List.cons_append]

end Texts

section Reading

variable {pieces : List Piece} {rest : List Char}

theorem tagsOf_of_plain {text : List Char} (plain : '<' ∉ text) : tagsOf text = [] := by
  have skipped := tagsOf_append_of_plain plain []
  rwa [List.append_nil] at skipped

theorem plain_escapeText (pieces : List Piece) : ∀ p ∈ pieces.map (·.escapeText), '<' ∉ p.before :=
  List.forall_mem_map.mpr fun p _ => not_mem_escapeChars (.inl rfl) p.before

theorem piecesOf_pieces (plain : ∀ p ∈ pieces, '<' ∉ p.before) (named : ∀ p ∈ pieces, p.tag.Named)
    (ending : '<' ∉ rest) :
    piecesOf (piecesText pieces ++ rest) = pieces.map fun p => ⟨p.before, p.tag.mapValues escape⟩ := by
  have sameLength : (pieces.map (·.before)).length = (pieces.map (·.tag.mapValues escape)).length := by simp
  rw [piecesOf, textsOf_pieces plain named, tagsOf_pieces plain named, textsOf_of_plain ending,
    tagsOf_of_plain ending, List.zipWith_append sameLength, List.zipWith_nil_right, List.append_nil, List.zipWith_map,
    List.zipWith_self]

theorem Piece.unescape?_escaped (p : Piece) :
    Piece.unescape? ⟨escapeChars p.before, p.tag.mapValues escape⟩ = some p := by
  have text : readReferences none (escapeChars p.before) = some p.before := by
    have read := readReferences_escapeChars p.before []
    rw [List.append_nil] at read
    rw [read, readReferences, Option.map_some, List.append_nil]
  rw [Piece.unescape?, text, p.tag.unescape?_mapValues_escape]
  rfl

theorem mapM_unescape?_escaped (pieces : List Piece) :
    (pieces.map fun p => Piece.mk (escapeChars p.before) (p.tag.mapValues escape)).mapM Piece.unescape? =
      some pieces := by
  induction pieces with
  | nil => rfl
  | cons p pieces ih =>
      rw [List.map_cons, List.mapM_cons, p.unescape?_escaped, ih]
      rfl

/-- A document is read back piece by piece, whatever its texts and the values of its tags look like. -/
theorem readPieces?_pieces {document : String} (named : ∀ p ∈ pieces, p.tag.Named) (ending : '<' ∉ rest)
    (written : document.toList = piecesText (pieces.map (·.escapeText)) ++ rest) :
    readPieces? document = some pieces := by
  have tagsNamed : ∀ p ∈ pieces.map (·.escapeText), p.tag.Named := List.forall_mem_map.mpr named
  rw [readPieces?, written, piecesOf_pieces (plain_escapeText pieces) tagsNamed ending, List.map_map]
  exact mapM_unescape?_escaped pieces

theorem begins_mapValues (name : String) (f : String → String) (tag : Tag) :
    (tag.mapValues f).begins name = tag.begins name := by
  cases tag <;> rfl

/-- The elements in a document are those that were written, and none comes out of a text or a value. -/
theorem elementCount_pieces {document : String} (named : ∀ p ∈ pieces, p.tag.Named) (ending : '<' ∉ rest)
    (written : document.toList = piecesText (pieces.map (·.escapeText)) ++ rest) (name : String) :
    elementCount name document = pieces.countP (·.tag.begins name) := by
  rw [elementCount, written, tagsOf_pieces (plain_escapeText pieces) (List.forall_mem_map.mpr named),
    tagsOf_of_plain ending, List.append_nil, List.map_map, List.countP_map]
  refine List.countP_congr fun p _ => ?_
  exact Bool.eq_iff_iff.mp (begins_mapValues name escape p.tag)

end Reading

end SpecTest.Markup
