import SpecTest.Proofs.Markup.Tags
import SpecTest.Unicode.CharSet

/-!
References: reading the characters that stand in a text under a name or a number.

A reference reaches from an ampersand to the next semicolon.  Escaped text has no other ampersands, so that
it is read back character by character.
-/

namespace SpecTest.Markup

open SpecTest.Text SpecTest.Unicode

/-- The characters that a document may have at all. -/
def legalChars : CharSet :=
  ⟨[(0x9, 0xA), (0xD, 0xD), (0x20, 0xD7FF), (0xE000, 0xFFFD), (0x10000, 0x10FFFF)]⟩

def isLegal (c : Char) : Bool := legalChars.contains c

theorem isLegal_iff {c : Char} : isLegal c ↔ (0x9 ≤ c.toNat ∧ c.toNat ≤ 0xA ∨ c.toNat = 0xD) ∨
    (0x20 ≤ c.toNat ∧ c.toNat ≤ 0xD7FF ∨ 0xE000 ≤ c.toNat ∧ c.toNat ≤ 0xFFFD) ∨
    0x10000 ≤ c.toNat ∧ c.toNat ≤ 0x10FFFF := by
  simp only [isLegal, legalChars, CharSet.contains, CharSet.hasCode, List.any_cons, List.any_nil,
    Bool.or_eq_true, Bool.and_eq_true, decide_eq_true_eq, Bool.or_false]
  omega

def IsLegal (text : String) : Prop := ∀ c ∈ text.toList, isLegal c

def entities : List (String × Char) :=
  [("amp", '&'), ("lt", '<'), ("gt", '>'), ("quot", '"'), ("apos", '\'')]

/-- The character of a reference, given what is between its ampersand and its semicolon. -/
def referenceChar? : List Char → Option Char
  | '#' :: 'x' :: digits => ((natIn? 16 digits).bind charOfCode?).filter isLegal
  | '#' :: digits => ((natIn? 10 digits).bind charOfCode?).filter isLegal
  | name => entities.lookup (String.ofList name)

/-- Reads a text with references.  The first argument is what was read of a reference, backwards. -/
def readReferences : Option (List Char) → List Char → Option (List Char)
  | none, [] => some []
  | some _, [] => none
  | none, c :: rest =>
    if c = '&' then readReferences (some []) rest
    else (readReferences none rest).map (c :: ·)
  | some name, c :: rest =>
    if c = ';' then do
      let d ← referenceChar? name.reverse
      return d :: (← readReferences none rest)
    else readReferences (some (c :: name)) rest

def unescape? (s : String) : Option String := (readReferences none s.toList).map String.ofList

section Escaping

theorem escapeChars_append (front back : List Char) :
    escapeChars (front ++ back) = escapeChars front ++ escapeChars back := by
  simp only [escapeChars, replaceChar_append]

theorem escapeChars_cons (c : Char) (text : List Char) :
    escapeChars (c :: text) = escapeChars [c] ++ escapeChars text :=
  escapeChars_append [c] text

/-- A reference ends at the first semicolon behind it. -/
theorem readReferences_pending {name : List Char} (plain : ';' ∉ name) (seen rest : List Char) :
    readReferences (some seen) (name ++ ';' :: rest) =
      (referenceChar? (seen.reverse ++ name)).bind fun d => (readReferences none rest).map (d :: ·) := by
  induction name generalizing seen with
  | nil =>
      rw [List.nil_append, List.append_nil, readReferences, if_pos rfl]
      cases referenceChar? seen.reverse <;> cases readReferences none rest <;> rfl
  | cons c name ih =>
      simp only [List.mem_cons, not_or] at plain
      rw [List.cons_append, readReferences, if_neg (Ne.symm plain.1), ih plain.2]
      simp

theorem readReferences_reference {name : List Char} {d : Char} (plain : ';' ∉ name)
    (stands : referenceChar? name = some d) (rest : List Char) :
    readReferences none ('&' :: (name ++ ';' :: rest)) = (readReferences none rest).map (d :: ·) := by
  rw [readReferences, if_pos rfl, readReferences_pending plain, List.reverse_nil, List.nil_append, stands,
    Option.bind_some]

/-- The escape of a character is the character itself, or a reference that stands for it. -/
theorem escapeChar_cases (c : Char) : escapeChars [c] = [c] ∧ c ≠ '&' ∨
    ∃ e ∈ entities, c = e.2 ∧ escapeChars [c] = '&' :: (e.1.toList ++ [';']) := by
  have written : ∀ e ∈ entities, escapeChars [e.2] = '&' :: (e.1.toList ++ [';']) := by decide
  have marks : entities.map (·.2) = ['&', '<', '>', '"', '\''] := rfl
  by_cases marked : c ∈ entities.map (·.2)
  · obtain ⟨e, listed, rfl⟩ := List.mem_map.mp marked
    exact .inr ⟨e, listed, rfl, written e listed⟩
  · rw [marks] at marked
    left
    constructor
    · apply escapeChars_of_plain
      intro mark listed inside
      rw [List.mem_singleton.mp inside] at listed
      exact marked listed
    · intro same
      exact marked (by simp [same])

theorem referenceChar?_entity :
    ∀ e ∈ entities, ';' ∉ e.1.toList ∧ referenceChar? e.1.toList = some e.2 := by decide

/-- A character is read back from its escape, and reading goes on behind it. -/
theorem readReferences_escapeChar (c : Char) (rest : List Char) :
    readReferences none (escapeChars [c] ++ rest) = (readReferences none rest).map (c :: ·) := by
  rcases escapeChar_cases c with ⟨plain, notAmpersand⟩ | ⟨e, listed, rfl, written⟩
  · rw [plain, List.singleton_append, readReferences, if_neg notAmpersand]
  · obtain ⟨plain, stands⟩ := referenceChar?_entity e listed
    rw [written, List.cons_append, List.append_assoc]
    exact readReferences_reference plain stands rest

theorem readReferences_escapeChars (text rest : List Char) :
    readReferences none (escapeChars text ++ rest) = (readReferences none rest).map (text ++ ·) := by
  induction text with
  | nil => simp [escapeChars]
  | cons c text ih =>
      rw [escapeChars_cons, List.append_assoc, readReferences_escapeChar, ih]
      cases readReferences none rest with
      | none => rfl
      | some read => rfl

theorem unescape?_escape (s : String) : unescape? (escape s) = some s := by
  have read := readReferences_escapeChars s.toList []
  rw [List.append_nil] at read
  rw [unescape?, escape, String.toList_ofList, read]
  simp [readReferences]

theorem escape_inj {s t : String} : escape s = escape t ↔ s = t := by
  constructor
  · intro same
    have read := congrArg unescape? same
    rw [unescape?_escape, unescape?_escape] at read
    exact Option.some.inj read
  · intro same
    rw [same]

/-- A value in quotes is known from the text that follows, and so is what stands behind it. -/
theorem attr_append_inj {name value other rest more : String} :
    attr name value ++ rest = attr name other ++ more ↔ value = other ∧ rest = more := by
  have noQuote (s : String) : '"' ∉ (escape s).toList := by
    rw [escape, String.toList_ofList]
    exact not_mem_escapeChars (by simp) _
  have quoted : (escape value).toList ++ '"' :: rest.toList = (escape other).toList ++ '"' :: more.toList ↔
      (escape value).toList = (escape other).toList ∧ rest.toList = more.toList :=
    append_sep_inj (noQuote value) (noQuote other)
  rw [String.toList_inj, String.toList_inj, escape_inj] at quoted
  rw [← quoted, ← String.toList_inj]
  simp [attr]

end Escaping

end SpecTest.Markup
