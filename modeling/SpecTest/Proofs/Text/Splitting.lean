import SpecTest.Text.Split

/-!
Splitting a text at a separator, and what the parts are when texts are put together.
-/

namespace SpecTest.Text

variable {sep : Char}

/-- A run of characters of a kind ends where one of another kind stands. -/
theorem span_append {p : Char → Bool} {front behind : List Char} (all : ∀ c ∈ front, p c)
    (stops : ∀ c ∈ behind.head?, p c = false) :
    (front ++ behind).takeWhile p = front ∧ (front ++ behind).dropWhile p = behind := by
  rw [List.takeWhile_append_of_pos all, List.dropWhile_append_of_pos all]
  cases behind with
  | nil => simp
  | cons c behind => simp [stops c rfl]

theorem forall_ne_of_plain {text : List Char} (plain : sep ∉ text) : ∀ c ∈ text, decide (c ≠ sep) = true := by
  intro c member
  have other : c ≠ sep := ne_of_mem_of_not_mem member plain
  exact decide_eq_true other

theorem takeWhile_append_sep {front : List Char} (plain : sep ∉ front) (rest : List Char) :
    (front ++ sep :: rest).takeWhile (· ≠ sep) = front :=
  (span_append (forall_ne_of_plain plain) (by simp)).1

theorem dropWhile_append_sep {front : List Char} (plain : sep ∉ front) (rest : List Char) :
    (front ++ sep :: rest).dropWhile (· ≠ sep) = sep :: rest :=
  (span_append (forall_ne_of_plain plain) (by simp)).2

/-- The text in front of the first separator is known from the whole, and so is the one behind it. -/
theorem append_sep_inj {front other rest more : List Char} (plain : sep ∉ front) (otherPlain : sep ∉ other) :
    front ++ sep :: rest = other ++ sep :: more ↔ front = other ∧ rest = more := by
  constructor
  · intro same
    have first := congrArg (List.takeWhile (· ≠ sep)) same
    rw [takeWhile_append_sep plain, takeWhile_append_sep otherPlain] at first
    rw [first] at same
    exact ⟨first, List.tail_eq_of_cons_eq (List.append_cancel_left same)⟩
  · intro both
    rw [both.1, both.2]

theorem append_sep_inj_of_last {front other rest more : List Char} (plain : sep ∉ rest)
    (otherPlain : sep ∉ more) :
    front ++ sep :: rest = other ++ sep :: more ↔ front = other ∧ rest = more := by
  have backwards : rest.reverse ++ sep :: front.reverse = more.reverse ++ sep :: other.reverse ↔
      rest.reverse = more.reverse ∧ front.reverse = other.reverse :=
    append_sep_inj (by simpa using plain) (by simpa using otherPlain)
  rw [List.reverse_inj, List.reverse_inj] at backwards
  rw [← List.reverse_inj, and_comm, ← backwards]
  simp

theorem dropWhile_of_plain {text : List Char} (plain : sep ∉ text) : text.dropWhile (· ≠ sep) = [] := by
  have dropped : (text ++ []).dropWhile (· ≠ sep) = [] :=
    List.dropWhile_append_of_pos (forall_ne_of_plain plain)
  rwa [List.append_nil] at dropped

@[simp] theorem splitAt_nil : splitAt sep [] = [[]] := rfl

theorem splitAt_sep (rest : List Char) : splitAt sep (sep :: rest) = [] :: splitAt sep rest := by
  simp [splitAt]

theorem splitAt_ne_nil (sep : Char) (cs : List Char) : splitAt sep cs ≠ [] := by
  cases cs with
  | nil => simp
  | cons c rest =>
      simp only [splitAt]
      split
      · simp
      · split <;> simp

theorem splitAt_other {c : Char} (other : c ≠ sep) {rest part : List Char} {parts : List (List Char)}
    (cut : splitAt sep rest = part :: parts) : splitAt sep (c :: rest) = (c :: part) :: parts := by
  simp [splitAt, other, cut]

theorem splitAt_of_plain {cs : List Char} (plain : sep ∉ cs) : splitAt sep cs = [cs] := by
  induction cs with
  | nil => rfl
  | cons c rest ih =>
      simp only [List.mem_cons, not_or] at plain
      exact splitAt_other (Ne.symm plain.1) (ih plain.2)

theorem splitAt_append_sep (front back : List Char) :
    splitAt sep (front ++ sep :: back) = splitAt sep front ++ splitAt sep back := by
  induction front with
  | nil => exact splitAt_sep back
  | cons c front ih =>
      by_cases same : c = sep
      · rw [same, List.cons_append, splitAt_sep, splitAt_sep, ih, List.cons_append]
      · obtain ⟨part, parts, cut⟩ := List.exists_cons_of_ne_nil (splitAt_ne_nil sep front)
        rw [List.cons_append, splitAt_other same cut, List.cons_append]
        exact splitAt_other same (by rw [ih, cut, List.cons_append])

/-- What is put in front of a text belongs to its first part. -/
theorem splitAt_plain_append {front part : List Char} {parts : List (List Char)} (plain : sep ∉ front)
    {rest : List Char} (cut : splitAt sep rest = part :: parts) :
    splitAt sep (front ++ rest) = (front ++ part) :: parts := by
  induction front with
  | nil => exact cut
  | cons c front ih =>
      simp only [List.mem_cons, not_or] at plain
      exact splitAt_other (Ne.symm plain.1) (ih plain.2)

/-- What is put behind a text belongs to its last part. -/
theorem splitAt_append_of_plain {ending : List Char} (plain : sep ∉ ending) (cs : List Char) :
    ∃ parts last, splitAt sep cs = parts ++ [last] ∧
      splitAt sep (cs ++ ending) = parts ++ [last ++ ending] := by
  induction cs with
  | nil => exact ⟨[], [], rfl, splitAt_of_plain plain⟩
  | cons c rest ih =>
      obtain ⟨parts, last, cut, cutLonger⟩ := ih
      by_cases same : c = sep
      · exact ⟨[] :: parts, last, by rw [same, splitAt_sep, cut]; rfl,
          by rw [same, List.cons_append, splitAt_sep, cutLonger]; rfl⟩
      · cases parts with
        | nil => exact ⟨[], c :: last, splitAt_other same cut, splitAt_other same cutLonger⟩
        | cons part parts =>
            exact ⟨(c :: part) :: parts, last, splitAt_other same cut, splitAt_other same cutLonger⟩

theorem eq_nil_or_sep_of_splitAt {cs : List Char} {parts : List (List Char)}
    (cut : splitAt sep cs = [] :: parts) : cs = [] ∨ ∃ rest, cs = sep :: rest := by
  cases cs with
  | nil => exact .inl rfl
  | cons c rest =>
      by_cases same : c = sep
      · exact .inr ⟨rest, by rw [same]⟩
      · obtain ⟨part, others, cutRest⟩ := List.exists_cons_of_ne_nil (splitAt_ne_nil sep rest)
        rw [splitAt_other same cutRest] at cut
        simp at cut

/-- A text with an empty last part behind others ends in a separator. -/
theorem getLast?_of_splitAt {cs : List Char} {parts : List (List Char)} (others : parts ≠ [])
    (cut : splitAt sep cs = parts ++ [[]]) : cs.getLast? = some sep := by
  induction cs generalizing parts with
  | nil =>
      rw [splitAt_nil] at cut
      exact absurd (List.append_eq_singleton_iff.mp cut.symm) (by simp [others])
  | cons c rest ih =>
      obtain ⟨first, parts, rfl⟩ := List.exists_cons_of_ne_nil others
      by_cases same : c = sep
      · rw [same, splitAt_sep, List.cons_append, List.cons.injEq] at cut
        cases parts with
        | nil =>
            rcases eq_nil_or_sep_of_splitAt cut.2 with rfl | ⟨more, rfl⟩
            · rw [same]
              rfl
            · rw [splitAt_sep] at cut
              exact absurd (List.cons.inj cut.2).2 (splitAt_ne_nil sep more)
        | cons second parts =>
            rw [List.getLast?_cons, ih (by simp) cut.2]
            rfl
      · obtain ⟨part, others, cutRest⟩ := List.exists_cons_of_ne_nil (splitAt_ne_nil sep rest)
        rw [splitAt_other same cutRest, List.cons_append, List.cons.injEq] at cut
        have atEnd := ih (List.cons_ne_nil part parts) (by rw [cutRest, cut.2]; rfl)
        rw [List.getLast?_cons, atEnd]
        rfl

theorem not_mem_of_mem_splitAt {cs part : List Char} (member : part ∈ splitAt sep cs) : sep ∉ part := by
  induction cs generalizing part with
  | nil => simp_all
  | cons c rest ih =>
      by_cases same : c = sep
      · rw [same, splitAt_sep] at member
        rcases List.mem_cons.mp member with rfl | inside
        · simp
        · exact ih inside
      · obtain ⟨first, parts, cut⟩ := List.exists_cons_of_ne_nil (splitAt_ne_nil sep rest)
        rw [splitAt_other same cut] at member
        rcases List.mem_cons.mp member with rfl | inside
        · simp only [List.mem_cons, not_or]
          exact ⟨Ne.symm same, ih (by simp [cut])⟩
        · exact ih (by simp [cut, inside])

theorem splitAt_intercalate {parts : List (List Char)} (nonempty : parts ≠ [])
    (plain : ∀ part ∈ parts, sep ∉ part) : splitAt sep ([sep].intercalate parts) = parts := by
  induction parts with
  | nil => contradiction
  | cons part parts ih =>
      cases parts with
      | nil => simpa using splitAt_of_plain (plain part (by simp))
      | cons next parts =>
          rw [List.intercalate_cons_cons, List.append_assoc, List.singleton_append, splitAt_append_sep,
            splitAt_of_plain (plain part (by simp)),
            ih (by simp) fun other member => plain other (List.mem_cons_of_mem _ member)]
          rfl

theorem not_mem_of_mem_split {s part : String} (member : part ∈ split sep s) : sep ∉ part.toList := by
  obtain ⟨chars, inside, rfl⟩ := List.mem_map.mp member
  rw [String.toList_ofList]
  exact not_mem_of_mem_splitAt inside

theorem split_ne_nil (sep : Char) (s : String) : split sep s ≠ [] :=
  mt List.map_eq_nil_iff.mp (splitAt_ne_nil sep s.toList)

theorem split_of_plain {s : String} (plain : sep ∉ s.toList) : split sep s = [s] := by
  rw [split, splitAt_of_plain plain, List.map_cons, List.map_nil, String.ofList_toList]

theorem split_append_sep (front back : String) :
    split sep (front ++ String.singleton sep ++ back) = split sep front ++ split sep back := by
  have chars : (front ++ String.singleton sep ++ back).toList = front.toList ++ sep :: back.toList := by
    simp
  rw [split, chars, splitAt_append_sep, List.map_append, split, split]

theorem split_append_of_plain {ending : String} (plain : sep ∉ ending.toList) (s : String) :
    ∃ parts last, split sep s = parts ++ [last] ∧ split sep (s ++ ending) = parts ++ [last ++ ending] := by
  obtain ⟨parts, last, cut, cutLonger⟩ := splitAt_append_of_plain plain s.toList
  refine ⟨parts.map String.ofList, String.ofList last, ?_, ?_⟩
  · rw [split, cut, List.map_append, List.map_cons, List.map_nil]
  · rw [split, String.toList_append, cutLonger, List.map_append, List.map_cons, List.map_nil,
      String.ofList_append, String.ofList_toList]

theorem split_intercalate {parts : List String} (nonempty : parts ≠ [])
    (plain : ∀ part ∈ parts, sep ∉ part.toList) :
    split sep ((String.singleton sep).intercalate parts) = parts := by
  have chars : ((String.singleton sep).intercalate parts).toList =
      [sep].intercalate (parts.map String.toList) := by
    simp [String.toList_intercalate]
  rw [split, chars, splitAt_intercalate (by simpa using nonempty) (by simpa using plain), List.map_map]
  simp

end SpecTest.Text
