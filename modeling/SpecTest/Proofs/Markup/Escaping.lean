import SpecTest.Proofs.Markup.References

/-!
Escaping, character by character.

Text is escaped by replacing one character after another in all of it, and each replacement sees what those
before it have put in.  As the ampersand comes first, all of them together are one map over the characters,
and one pass from the left undoes it.
-/

namespace SpecTest.Markup

open SpecTest.Text

/-- What is written for a character. -/
def charEscape (c : Char) : String :=
  match c with
  | '&' => "&amp;"
  | '<' => "&lt;"
  | '>' => "&gt;"
  | '"' => "&quot;"
  | '\'' => "&apos;"
  | c => String.singleton c

/-- An entity as it stands in a text. -/
def entityText (e : String × Char) : List Char := '&' :: (e.1.toList ++ [';'])

/-- The length of the entity at the start of a text, and the character that it stands for. -/
def entityAt? (text : List Char) : Option (Nat × List Char) :=
  (entities.find? fun e => (entityText e).isPrefixOf text).map fun e => ((entityText e).length, [e.2])

/-- Puts the characters back that the entities stand for, in one pass from the left.  All else stays. -/
def decodeEntities (s : String) : String := String.ofList (rewriteFrom entityAt? 0 s.toList)

variable {c : Char} {e : String × Char} {text rest front : List Char}

section Writing

theorem escapeChars_singleton (c : Char) : escapeChars [c] = (charEscape c).toList := by
  unfold charEscape
  split
  · rfl
  · rfl
  · rfl
  · rfl
  · rfl
  · rw [String.toList_singleton]
    exact escapeChars_of_plain (by simp_all [eq_comm])

theorem escapeChars_eq_flatMap (text : List Char) :
    escapeChars text = text.flatMap fun c => (charEscape c).toList := by
  induction text with
  | nil => rfl
  | cons c text ih => rw [escapeChars_cons, escapeChars_singleton, ih, List.flatMap_cons]

/-- The entities hold none of the characters that are replaced, but for their ampersands. -/
theorem not_mem_escapeChars_of_mark (mark : c ∈ ['<', '>', '"', '\'']) (text : List Char) :
    c ∉ escapeChars text := by
  simp only [List.mem_cons, List.not_mem_nil, or_false] at mark
  rcases mark with rfl | rfl | rfl | rfl <;> simp [escapeChars, mem_replaceChar]

theorem escape_eq_join (s : String) : escape s = String.join (s.toList.map charEscape) := by
  rw [escape, escapeChars_eq_flatMap, ← String.toList_inj, String.toList_ofList, String.toList_join,
    List.flatMap_map]

theorem escape_append (s t : String) : escape (s ++ t) = escape s ++ escape t := by
  rw [escape, String.toList_append, escapeChars_append, String.ofList_append, escape, escape]

end Writing

section Ampersands

/-- What starts with an ampersand starts behind characters that are none. -/
theorem suffix_of_plain (plain : '&' ∉ front) (ends : '&' :: rest <:+ front ++ text) : '&' :: rest <:+ text := by
  induction front with
  | nil => exact ends
  | cons c front ih =>
      simp only [List.mem_cons, not_or] at plain
      rcases List.suffix_cons_iff.mp ends with same | inside
      · exact absurd (List.cons.inj same).1 plain.1
      · exact ih plain.2 inside

theorem entityName_of_mem : ∀ e ∈ entities, '&' ∉ e.1.toList ++ [';'] := by decide

/-- From each ampersand of an escaped text on, the text starts with an entity. -/
theorem exists_entity_of_suffix (ends : '&' :: rest <:+ escapeChars text) :
    ∃ e ∈ entities, entityText e <+: '&' :: rest := by
  induction text with
  | nil => exact absurd (List.suffix_nil.mp ends) (by simp)
  | cons c text ih =>
      rw [escapeChars_cons] at ends
      rcases escapeChar_cases c with ⟨plain, notAmpersand⟩ | ⟨e, listed, rfl, written⟩
      · rw [plain] at ends
        exact ih (suffix_of_plain (by simpa using Ne.symm notAmpersand) ends)
      · rw [written, List.cons_append] at ends
        rcases List.suffix_cons_iff.mp ends with same | inside
        · rw [same]
          exact ⟨e, listed, List.prefix_append (entityText e) (escapeChars text)⟩
        · exact ih (suffix_of_plain (entityName_of_mem e listed) inside)

end Ampersands

section Decoding

/-- No entity is the start of another one, so that the one that stands there is found. -/
theorem entityAt?_entity (listed : e ∈ entities) (rest : List Char) :
    entityAt? (entityText e ++ rest) = some ((entityText e).length, [e.2]) := by
  simp only [entities, List.mem_cons, List.not_mem_nil, or_false] at listed
  rcases listed with rfl | rfl | rfl | rfl | rfl <;> simp [entityAt?, entities, entityText]

theorem entityAt?_other (notAmpersand : c ≠ '&') (rest : List Char) : entityAt? (c :: rest) = none := by
  simp [entityAt?, entityText, Ne.symm notAmpersand]

theorem rewriteFrom_escapeChars (text : List Char) : rewriteFrom entityAt? 0 (escapeChars text) = text := by
  induction text with
  | nil => rfl
  | cons c text ih =>
      rw [escapeChars_cons]
      rcases escapeChar_cases c with ⟨plain, notAmpersand⟩ | ⟨e, listed, rfl, written⟩
      · rw [plain, List.singleton_append, rewriteFrom_cons (entityAt?_other notAmpersand _), ih]
      · rw [written]
        change rewriteFrom entityAt? 0 (entityText e ++ escapeChars text) = e.2 :: text
        have nonempty : entityText e ++ escapeChars text ≠ [] := by simp [entityText]
        have positive : 0 < (entityText e).length := Nat.succ_pos _
        rw [rewriteFrom_found positive (entityAt?_entity listed _) nonempty, List.drop_left, ih,
          List.singleton_append]

theorem decodeEntities_escape (s : String) : decodeEntities (escape s) = s := by
  rw [decodeEntities, escape, String.toList_ofList, rewriteFrom_escapeChars, String.ofList_toList]

end Decoding

/-- The replacements, each of which goes over all of the text, write every character by itself, so that a text is
escaped in parts.  Of the five characters none is left but ampersands that start an entity, and one pass over
the entities gives back the text, whatever entities it had itself. -/
theorem escape_charwise (s : String) :
    escape s = String.join (s.toList.map charEscape) ∧
    (∀ t, escape (s ++ t) = escape s ++ escape t) ∧
    (∀ c ∈ ['<', '>', '"', '\''], c ∉ (escape s).toList) ∧
    (∀ rest, '&' :: rest <:+ (escape s).toList → ∃ e ∈ entities, entityText e <+: '&' :: rest) ∧
    decodeEntities (escape s) = s := by
  refine ⟨escape_eq_join s, escape_append s, fun c listed => ?_, fun rest ends => ?_, decodeEntities_escape s⟩
  · rw [escape, String.toList_ofList]
    exact not_mem_escapeChars_of_mark listed s.toList
  · rw [escape, String.toList_ofList] at ends
    exact exists_entity_of_suffix ends

section Samples

/-- Text that has an entity is escaped once more, and that is what decoding takes away again. -/
theorem escape_charwise_entity :
    ('\'' ∈ ['<', '>', '"', '\''] ∧ '\'' ∉ (escape "&lt;'").toList) ∧
    ("&apos;".toList <:+ (escape "&lt;'").toList ∧ ∃ e ∈ entities, entityText e <+: "&apos;".toList) ∧
    escape "&lt;'" = "&amp;lt;&apos;" ∧ decodeEntities (escape "&lt;'") = "&lt;'" := by
  obtain ⟨-, -, absent, starts, decoded⟩ := escape_charwise "&lt;'"
  have listed : '\'' ∈ ['<', '>', '"', '\''] := by decide
  have ends : "&apos;".toList <:+ (escape "&lt;'").toList := by decide
  exact ⟨⟨listed, absent _ listed⟩, ⟨ends, starts _ ends⟩, by decide, decoded⟩

end Samples

end SpecTest.Markup
