import SpecTest.Proofs.Markup.Entities
import SpecTest.Proofs.Text.Splitting

/-!
Preformatted source: its brackets are escaped, spans are set around parts of it, and the text is read
back by deleting the tags of the spans and undoing the escapes.
-/

namespace SpecTest.Markup

open SpecTest.Text

def escapeTag (c : Char) : List Char :=
  if c = '<' then "&lt;".toList else if c = '>' then "&gt;".toList else [c]

def unescapeTags (text : List Char) : List Char :=
  text |> replaceRun "&lt;".toList ['<'] |> replaceRun "&gt;".toList ['>']

/-- The number of characters of the span's tag, opening or closing, at the start of a text. -/
def tagSize? (text : List Char) : Option Nat :=
  if "<span".toList.isPrefixOf text then
    let inside := (text.drop 5).takeWhile (· ≠ '>')
    if 5 + inside.length < text.length then some (5 + inside.length + 1) else none
  else if "</span>".toList.isPrefixOf text then some 7
  else none

def dropTags (text : List Char) : List Char :=
  rewriteFrom (fun rest => (tagSize? rest).map fun size => (size, [])) 0 text

/-- A tag that opens a span: an angle bracket at each end, and none between. -/
def IsOpenTag (tag : List Char) : Prop :=
  ∃ inside, tag = "<span".toList ++ inside ++ ['>'] ∧ '<' ∉ inside ∧ '>' ∉ inside

section Escaping

theorem escapeTags_append (front back : List Char) :
    escapeTags (front ++ back) = escapeTags front ++ escapeTags back := by
  simp only [escapeTags, replaceChar_append]

theorem escapeTags_eq_flatMap (text : List Char) : escapeTags text = text.flatMap escapeTag := by
  induction text with
  | nil => rfl
  | cons c rest ih =>
      have head : escapeTags [c] = escapeTag c := by
        by_cases less : c = '<'
        · subst less; rfl
        · by_cases greater : c = '>'
          · subst greater; rfl
          · have kept : replaceChar '<' "&lt;" [c] = [c] := replaceChar_absent (by simpa using Ne.symm less)
            simp only [escapeTags, kept, escapeTag, if_neg less, if_neg greater]
            exact replaceChar_absent (by simpa using Ne.symm greater)
      rw [List.flatMap_cons, ← ih, ← head, ← escapeTags_append, List.singleton_append]

theorem less_not_mem_escapeTags (text : List Char) : '<' ∉ escapeTags text := by
  simp [escapeTags, mem_replaceChar]

theorem greater_not_mem_escapeTags (text : List Char) : '>' ∉ escapeTags text := by
  simp [escapeTags, mem_replaceChar]

/-- Undoing the escapes of an escaped text is undoing the escapes that the text had already. -/
theorem unescapeTags_escapeTags (text : List Char) :
    unescapeTags (escapeTags text) = unescapeTags text := by
  have apart (rest : List Char) : ¬ "&lt;".toList <+: "&gt;".toList ++ rest := by
    simp
  have less : "&lt;".toList = '&' :: "lt;".toList := rfl
  have greater : "&gt;".toList = '&' :: "gt;".toList := rfl
  have lessName : EntityName "lt;".toList := by simp [EntityName]
  have greaterName : EntityName "gt;".toList := by simp [EntityName]
  simp only [unescapeTags, escapeTags]
  rw [replaceRun_replaceChar_comm less lessName greater greaterName apart (by decide) (by decide),
    replaceRun_replaceChar greater greaterName (by decide),
    replaceRun_replaceChar less lessName (by decide)]

/-- The texts that stay as they are when escapes are undone are those without an escape. -/
theorem unescapeTags_eq_self_iff (text : List Char) :
    unescapeTags text = text ↔
      containsRun "&lt;".toList text = false ∧ containsRun "&gt;".toList text = false := by
  simp only [← Bool.not_eq_true, containsRun_iff]
  constructor
  · intro same
    have lessKept : ¬ "&lt;".toList <:+: text := by
      intro present
      have fewer : (replaceRun "&lt;".toList ['<'] text).length < text.length :=
        length_replaceRun_lt (by decide) (by decide) present
      have atMost : (unescapeTags text).length ≤ (replaceRun "&lt;".toList ['<'] text).length :=
        length_replaceRun_le (by decide) (by decide) _
      rw [same] at atMost
      omega
    refine ⟨lessKept, ?_⟩
    rwa [unescapeTags, replaceRun_absent (by decide) lessKept,
      replaceRun_eq_self_iff (by decide) (by decide)] at same
  · intro absent
    obtain ⟨noLess, noGreater⟩ := absent
    rw [unescapeTags, replaceRun_absent (by decide) noLess, replaceRun_absent (by decide) noGreater]

end Escaping

section Tags

theorem tagSize_eq_none {c : Char} (notLess : c ≠ '<') (rest : List Char) :
    tagSize? (c :: rest) = none := by
  simp [tagSize?, Ne.symm notLess]

theorem dropTags_append_of_plain {front : List Char} (plain : '<' ∉ front) (rest : List Char) :
    dropTags (front ++ rest) = front ++ dropTags rest := by
  refine rewriteFrom_append rest fun c member rest => ?_
  rw [tagSize_eq_none (fun same => plain (same ▸ member)), Option.map_none]

theorem dropTags_of_plain {text : List Char} (plain : '<' ∉ text) : dropTags text = text := by
  have dropped := dropTags_append_of_plain plain []
  simpa [dropTags, rewriteFrom] using dropped

theorem dropTags_openTag {tag : List Char} (isTag : IsOpenTag tag) (rest : List Char) :
    dropTags (tag ++ rest) = dropTags rest := by
  obtain ⟨inside, rfl, -, plain⟩ := isTag
  have shape : "<span".toList ++ inside ++ ['>'] ++ rest = "<span".toList ++ (inside ++ '>' :: rest) := by
    simp only [List.append_assoc, List.singleton_append]
  have found : (tagSize? ("<span".toList ++ (inside ++ '>' :: rest))).map (·, ([] : List Char)) =
      some (5 + inside.length + 1, []) := by
    have starts : "<span".toList.isPrefixOf ("<span".toList ++ (inside ++ '>' :: rest)) = true := by simp
    have behind : ("<span".toList ++ (inside ++ '>' :: rest)).drop 5 = inside ++ '>' :: rest := rfl
    have enough : 5 + inside.length < ("<span".toList ++ (inside ++ '>' :: rest)).length := by
      simp
      omega
    simp only [tagSize?, if_pos starts, behind, takeWhile_append_sep plain, if_pos enough, Option.map_some]
  have dropped : ("<span".toList ++ (inside ++ '>' :: rest)).drop (5 + inside.length + 1) = rest := by
    have length : 5 + inside.length + 1 = ("<span".toList ++ inside ++ ['>']).length := by
      simp
      omega
    rw [← shape, length, List.drop_left]
  rw [shape, dropTags, rewriteFrom_found (by omega) found (by simp), dropped]
  rfl

theorem dropTags_closeTag (rest : List Char) :
    dropTags ("</span>".toList ++ rest) = dropTags rest := by
  have found : (tagSize? ("</span>".toList ++ rest)).map (·, ([] : List Char)) = some (7, []) := by
    simp [tagSize?]
  rw [dropTags, rewriteFrom_found (by decide) found (by simp)]
  rfl

end Tags

end SpecTest.Markup
