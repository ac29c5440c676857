import SpecTest.Proofs.Markup.Tags
import SpecTest.Unicode.CharSet

/-!
Documents as tags, each with the text in front of it.
-/

namespace SpecTest.Markup

open SpecTest.Unicode

section Names

/-- The characters that a name may start with. -/
def nameStarts : CharSet :=
  ⟨[(0x3A, 0x3A), (0x41, 0x5A), (0x5F, 0x5F), (0x61, 0x7A), (0xC0, 0xD6), (0xD8, 0xF6), (0xF8, 0x2FF),
    (0x370, 0x37D), (0x37F, 0x1FFF), (0x200C, 0x200D), (0x2070, 0x218F), (0x2C00, 0x2FEF),
    (0x3001, 0xD7FF), (0xF900, 0xFDCF), (0xFDF0, 0xFFFD), (0x10000, 0xEFFFF)]⟩

/-- The characters that a name may go on with besides those. -/
def nameMarks : CharSet :=
  ⟨[(0x2D, 0x2E), (0x30, 0x39), (0xB7, 0xB7), (0x300, 0x36F), (0x203F, 0x2040)]⟩

def startsName (c : Char) : Bool := nameStarts.contains c

def continuesName (c : Char) : Bool := startsName c || nameMarks.contains c

/-- Is the text a name by the rules for documents?  All of these are read as names. -/
def isXmlName (name : String) : Bool :=
  match name.toList with
  | [] => false
  | c :: rest => startsName c && rest.all continuesName

theorem isNameChar_of_continuesName {c : Char} (continues : continuesName c) : isNameChar c := by
  have marks : " \t\r\n<>=\"/?".toList.any continuesName = false := by decide
  rw [isNameChar, Bool.not_eq_true', List.contains_eq_mem, decide_eq_false_iff_not]
  intro mark
  exact List.any_eq_false.mp marks c mark continues

theorem exists_of_isXmlName {name : String} (named : isXmlName name) :
    ∃ c rest, name.toList = c :: rest ∧ startsName c ∧ ∀ d ∈ rest, continuesName d := by
  rw [isXmlName] at named
  split at named
  · contradiction
  · rename_i c rest letters
    rw [Bool.and_eq_true, List.all_eq_true] at named
    exact ⟨c, rest, letters, named⟩

theorem forall_continuesName {name : String} (named : isXmlName name) :
    ∀ c ∈ name.toList, continuesName c := by
  obtain ⟨c, rest, letters, starts, continues⟩ := exists_of_isXmlName named
  rw [letters, List.forall_mem_cons]
  exact ⟨by simp [continuesName, starts], continues⟩

theorem isName_of_isXmlName {name : String} (named : isXmlName name) : IsName name := by
  obtain ⟨c, rest, letters, -⟩ := exists_of_isXmlName named
  refine ⟨by simp [letters], List.all_eq_true.mpr fun d member => ?_⟩
  exact isNameChar_of_continuesName (forall_continuesName named d member)

end Names

namespace Tag

/-- The text of a tag, in which its values are escaped. -/
def text : Tag → List Char
  | .opening name attributes isEmpty => '<' :: (tagText name attributes isEmpty ++ ['>'])
  | .closing name => '<' :: '/' :: (name.toList ++ ['>'])
  | .instruction text => '<' :: '?' :: (text.toList ++ ['>'])

def mapValues (f : String → String) : Tag → Tag
  | .opening name attributes isEmpty => .opening name (attributes.map fun a => (a.1, f a.2)) isEmpty
  | tag => tag

def values : Tag → List String
  | .opening _ attributes _ => attributes.map (·.2)
  | _ => []

/-- Does the tag begin or end an element with a name, and are its attributes told apart by theirs? -/
def Named : Tag → Prop
  | .opening name attributes _ =>
    isXmlName name ∧ (∀ key ∈ attributes.map (·.1), isXmlName key) ∧ (attributes.map (·.1)).Nodup
  | .closing name => isXmlName name
  | .instruction _ => False

instance (tag : Tag) : Decidable tag.Named :=
  match tag with
  | .opening _ _ _ => inferInstanceAs (Decidable (_ ∧ _ ∧ _))
  | .closing _ => inferInstanceAs (Decidable (_ = true))
  | .instruction _ => inferInstanceAs (Decidable False)

theorem Named.mapValues {f : String → String} {tag : Tag} (named : tag.Named) : (tag.mapValues f).Named := by
  cases tag with
  | opening name attributes isEmpty =>
      have keys : (attributes.map fun a => (a.1, f a.2)).map (·.1) = attributes.map (·.1) := by
        rw [List.map_map]
        rfl
      rwa [Tag.mapValues, Named, keys]
  | closing name => exact named
  | instruction text => exact named

theorem mapValues_eq_self_iff {f : String → String} {tag : Tag} :
    tag.mapValues f = tag ↔ ∀ value ∈ tag.values, f value = value := by
  cases tag with
  | opening name attributes isEmpty =>
      simp only [mapValues, values, opening.injEq, true_and, and_true, List.forall_mem_map]
      have each := List.map_inj_left (l := attributes) (f := fun a => (a.1, f a.2)) (g := id)
      rw [List.map_id] at each
      simp only [each, id_eq, Prod.ext_iff, true_and]
  | closing name => simp [mapValues, values]
  | instruction text => simp [mapValues, values]

end Tag

/-- A tag with the text in front of it. -/
structure Piece where
  before : List Char
  tag : Tag
deriving DecidableEq, Repr

namespace Piece

def text (p : Piece) : List Char := p.before ++ p.tag.text

def mapValues (f : String → String) (p : Piece) : Piece := ⟨p.before, p.tag.mapValues f⟩

/-- A tag on a line of its own, behind an indent. -/
def line (indent : Nat) (tag : Tag) : Piece := ⟨'\n' :: List.replicate indent ' ', tag⟩

end Piece

def piecesText (pieces : List Piece) : List Char := pieces.flatMap (·.text)

theorem piecesText_cons (p : Piece) (pieces : List Piece) :
    piecesText (p :: pieces) = p.before ++ (p.tag.text ++ piecesText pieces) := by
  rw [piecesText, List.flatMap_cons, Piece.text, List.append_assoc]
  rfl

theorem piecesText_append (pieces others : List Piece) :
    piecesText (pieces ++ others) = piecesText pieces ++ piecesText others :=
  List.flatMap_append

theorem tagsOf_tag_text {tag : Tag} (named : tag.Named) (rest : List Char) :
    tagsOf (tag.text ++ rest) = tag.mapValues escape :: tagsOf rest := by
  cases tag with
  | opening name attributes isEmpty =>
      obtain ⟨isName, keys, -⟩ := named
      have keysNamed : ∀ a ∈ attributes, IsName a.1 := fun a member =>
        isName_of_isXmlName (keys a.1 (List.mem_map_of_mem member))
      rw [Tag.text, List.cons_append, List.append_assoc]
      exact tagsOf_tagText (isName_of_isXmlName isName) keysNamed rest
  | closing name =>
      have isName := isName_of_isXmlName named
      have noBracket {c : Char} (bracket : isNameChar c = false) (other : c ≠ '/') : c ∉ '/' :: name.toList := by
        rw [List.mem_cons, not_or]
        exact ⟨other, isName.not_mem bracket⟩
      rw [Tag.text, List.cons_append, List.cons_append, List.append_assoc]
      have noLess : '<' ∉ '/' :: name.toList := noBracket (by decide) (by decide)
      have noGreater : '>' ∉ '/' :: name.toList := noBracket (by decide) (by decide)
      refine (tagsOf_tag noLess noGreater rest).trans ?_
      rw [readTag, String.ofList_toList]
      rfl
  | instruction text => contradiction

/-- The tags of a document are read back whatever their values are, but as they are escaped. -/
theorem tagsOf_pieces {pieces : List Piece} (plain : ∀ p ∈ pieces, '<' ∉ p.before)
    (named : ∀ p ∈ pieces, p.tag.Named) (rest : List Char) :
    tagsOf (piecesText pieces ++ rest) = pieces.map (·.tag.mapValues escape) ++ tagsOf rest := by
  induction pieces with
  | nil => rfl
  | cons p pieces ih =>
      obtain ⟨plainFirst, plainRest⟩ := List.forall_mem_cons.mp plain
      obtain ⟨namedFirst, namedRest⟩ := List.forall_mem_cons.mp named
      rw [piecesText_cons, List.append_assoc, List.append_assoc, tagsOf_append_of_plain plainFirst,
        tagsOf_tag_text namedFirst, ih plainRest namedRest, List.map_cons, List.cons_append]

end SpecTest.Markup
