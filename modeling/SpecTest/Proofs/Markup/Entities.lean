import SpecTest.Markup.Escape
import SpecTest.Proofs.Text.Rewriting

/-!
Entities: writing one for a character, and reading it back.

An entity starts with an ampersand and has no other one, so a rewritten text holds it at a
character that it was written for, or where the text itself held it.
-/

namespace SpecTest.Markup

open SpecTest.Text

def EntityName (name : List Char) : Prop := '&' ∉ name

section Replacing

variable {c : Char} {entity : String} {text : List Char}

@[simp] theorem replaceChar_nil : replaceChar c entity [] = [] := rfl

@[simp] theorem replaceChar_same (rest : List Char) :
    replaceChar c entity (c :: rest) = entity.toList ++ replaceChar c entity rest := by
  simp [replaceChar]

theorem replaceChar_other {d : Char} (different : d ≠ c) (rest : List Char) :
    replaceChar c entity (d :: rest) = d :: replaceChar c entity rest := by
  simp [replaceChar, different]

theorem replaceChar_append (front back : List Char) :
    replaceChar c entity (front ++ back) = replaceChar c entity front ++ replaceChar c entity back :=
  List.flatMap_append

theorem replaceChar_absent (absent : c ∉ text) : replaceChar c entity text = text := by
  induction text with
  | nil => rfl
  | cons d rest ih =>
      simp only [List.mem_cons, not_or] at absent
      obtain ⟨different, absent⟩ := absent
      rw [replaceChar_other (Ne.symm different), ih absent]

theorem mem_replaceChar {d : Char} :
    d ∈ replaceChar c entity text ↔ (c ∈ text ∧ d ∈ entity.toList) ∨ (d ∈ text ∧ d ≠ c) := by
  induction text with
  | nil => simp
  | cons e rest ih =>
      by_cases same : e = c
      · subst same
        rw [replaceChar_same, List.mem_append, ih]
        grind
      · rw [replaceChar_other same, List.mem_cons, ih]
        grind

/-- Characters that start no entity are at the start of a rewritten text only if they are at the
start of the text. -/
theorem prefix_of_prefix_replaceChar {name front : List Char} (written : entity.toList = '&' :: name)
    (plain : '&' ∉ front) (starts : front <+: replaceChar c entity text) : front <+: text := by
  induction front generalizing text with
  | nil => exact List.nil_prefix
  | cons d front ih =>
      cases text with
      | nil => exact absurd (List.prefix_nil.mp starts) (by simp)
      | cons e rest =>
          simp only [List.mem_cons, not_or] at plain
          obtain ⟨notAmpersand, plain⟩ := plain
          by_cases same : e = c
          · rw [same, replaceChar_same, written, List.cons_append, List.cons_prefix_cons] at starts
            exact absurd starts.1.symm notAmpersand
          · rw [replaceChar_other same, List.cons_prefix_cons] at starts
            exact List.cons_prefix_cons.mpr ⟨starts.1, ih plain starts.2⟩

/-- A rewritten text goes on with an entity at a kept character only if the text does. -/
theorem not_prefix_replaceChar {name other : List Char} {d : Char} {rest : List Char}
    (written : entity.toList = '&' :: name) (isName : EntityName other)
    (absent : ¬ ('&' :: other) <+: d :: rest) :
    ¬ ('&' :: other) <+: d :: replaceChar c entity rest := by
  intro starts
  obtain ⟨same, follows⟩ := List.cons_prefix_cons.mp starts
  exact absent (List.cons_prefix_cons.mpr ⟨same, prefix_of_prefix_replaceChar written isName follows⟩)

end Replacing

section Reading

variable {c : Char} {entity : String} {name : List Char}

theorem replaceRun_append_of_plain {new front : List Char} (plain : '&' ∉ front) (rest : List Char) :
    replaceRun ('&' :: name) new (front ++ rest) = front ++ replaceRun ('&' :: name) new rest := by
  induction front with
  | nil => rfl
  | cons d front ih =>
      simp only [List.mem_cons, not_or] at plain
      obtain ⟨notAmpersand, plain⟩ := plain
      have absent : ¬ ('&' :: name) <+: d :: (front ++ rest) := fun starts =>
        notAmpersand (List.cons_prefix_cons.mp starts).1
      rw [List.cons_append, replaceRun_cons absent, ih plain, List.cons_append]

/-- Reading an entity back after writing it for its character is reading it in the text itself. -/
theorem replaceRun_replaceChar (written : entity.toList = '&' :: name) (isName : EntityName name)
    (notInside : c ∉ entity.toList) (text : List Char) :
    replaceRun entity.toList [c] (replaceChar c entity text) = replaceRun entity.toList [c] text := by
  have nonempty : entity.toList ≠ [] := by simp [written]
  induction text using runInduction nonempty with
  | nil => rfl
  | found rest ih =>
      rw [replaceChar_append, replaceChar_absent notInside, replaceRun_run_append nonempty,
        replaceRun_run_append nonempty, ih]
  | kept d rest absent ih =>
      by_cases same : d = c
      · rw [same] at absent ⊢
        rw [replaceChar_same, replaceRun_run_append nonempty, replaceRun_cons absent, ih]
        rfl
      · have stillAbsent : ¬ entity.toList <+: d :: replaceChar c entity rest := by
          rw [written] at absent ⊢
          exact not_prefix_replaceChar written isName absent
        rw [replaceChar_other same, replaceRun_cons stillAbsent, replaceRun_cons absent, ih]

/-- Reading one entity back does not meddle with the entity written for another character. -/
theorem replaceRun_replaceChar_comm {d : Char} {other : String} {otherName : List Char}
    (written : entity.toList = '&' :: name) (isName : EntityName name)
    (otherWritten : other.toList = '&' :: otherName) (otherIsName : EntityName otherName)
    (apart : ∀ rest, ¬ entity.toList <+: other.toList ++ rest) (notInside : d ∉ entity.toList)
    (different : c ≠ d) (text : List Char) :
    replaceRun entity.toList [c] (replaceChar d other text) =
      replaceChar d other (replaceRun entity.toList [c] text) := by
  have nonempty : entity.toList ≠ [] := by simp [written]
  have otherKept (rest : List Char) : replaceRun entity.toList [c] (other.toList ++ rest) =
      other.toList ++ replaceRun entity.toList [c] rest := by
    have absent := apart rest
    rw [otherWritten, List.cons_append] at absent ⊢
    rw [replaceRun_cons absent, written, replaceRun_append_of_plain otherIsName, List.cons_append]
  induction text using runInduction nonempty with
  | nil => rfl
  | found rest ih =>
      rw [replaceChar_append, replaceChar_absent notInside, replaceRun_run_append nonempty,
        replaceRun_run_append nonempty, ih, List.singleton_append, List.singleton_append,
        replaceChar_other different]
  | kept e rest absent ih =>
      rw [replaceRun_cons absent]
      by_cases same : e = d
      · rw [same, replaceChar_same, replaceChar_same, otherKept, ih]
      · have stillAbsent : ¬ entity.toList <+: e :: replaceChar d other rest := by
          rw [written] at absent ⊢
          exact not_prefix_replaceChar otherWritten isName absent
        rw [replaceChar_other same, replaceChar_other same, replaceRun_cons stillAbsent, ih]

end Reading

end SpecTest.Markup
