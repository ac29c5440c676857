import SpecTest.Proofs.Path.Route

/-!
Where the path of an entry leads, given the path of its directory and the name of the entry.
-/

namespace SpecTest.Path

open SpecTest.Text

variable {dir : Path} {name stem ending : String} {workDir : Address}

def NamesEntries (ending : String) : Prop := '/' ∉ ending.toList ∧ 2 < ending.length

theorem partOf?_of_long (long : 2 < name.length) : partOf? name = some (.name name) := by
  have other (short : String) (shorter : short.length ≤ 2) : name ≠ short := by
    intro same
    rw [same] at long
    omega
  rw [partOf?, if_neg (by simp [other "" (by decide), other "." (by decide)]), if_neg (other ".." (by decide))]

theorem partOf?_ending (names : NamesEntries ending) (stem : String) :
    partOf? (stem ++ ending) = some (.name (stem ++ ending)) := by
  refine partOf?_of_long ?_
  rw [String.length_append]
  exact Nat.lt_of_lt_of_le names.2 (Nat.le_add_left _ _)

theorem child_text (dir : Path) (name : String) : ∃ front, (dir.child name).text = front ++ name := by
  rw [child, join]
  split
  · exact ⟨"", by simp⟩
  · split
    · exact ⟨dir.text, rfl⟩
    · exact ⟨dir.text ++ "/", rfl⟩

/-- Whatever the directory and the name are, an ending that the name has stays. -/
theorem address_child_ending (workDir : Address) (names : NamesEntries ending) (dir : Path)
    (stem : String) :
    ∃ around last, (dir.child (stem ++ ending)).address workDir = around ++ [last ++ ending] := by
  obtain ⟨front, text⟩ := child_text dir (stem ++ ending)
  obtain ⟨before, last, -, segments⟩ := split_append_of_plain names.1 (front ++ stem)
  refine ⟨before.foldl turn ((dir.child (stem ++ ending)).base workDir), last, ?_⟩
  rw [address, Path.segments, text, ← String.append_assoc, segments, List.foldl_append,
    List.foldl_cons, List.foldl_nil, turn_name (partOf?_ending names last)]

/-- Entries with endings of which neither ends in the other are never one. -/
theorem address_child_ne_concat {around : Address} {last otherEnding : String} (names : NamesEntries ending)
    (first : ¬ ending.toList <:+ otherEnding.toList) (second : ¬ otherEnding.toList <:+ ending.toList) :
    (dir.child (stem ++ ending)).address workDir ≠ around ++ [last ++ otherEnding] := by
  obtain ⟨here, name, found⟩ := address_child_ending workDir names dir stem
  rw [found]
  intro same
  have sameName : name ++ ending = last ++ otherEnding :=
    List.singleton_inj.mp (List.append_inj' same rfl).2
  have sameChars : name.toList ++ ending.toList = last.toList ++ otherEnding.toList := by
    rw [← String.toList_append, sameName, String.toList_append]
  rcases List.suffix_or_suffix_of_suffix ⟨_, sameChars⟩ (List.suffix_append _ _) with shorter | longer
  · exact first shorter
  · exact second longer

theorem address_child_ne {other : Path} {otherStem otherEnding : String} (names : NamesEntries ending)
    (otherNames : NamesEntries otherEnding) (first : ¬ ending.toList <:+ otherEnding.toList)
    (second : ¬ otherEnding.toList <:+ ending.toList) :
    (dir.child (stem ++ ending)).address workDir ≠
      (other.child (otherStem ++ otherEnding)).address workDir := by
  obtain ⟨_, _, found⟩ := address_child_ending workDir otherNames other otherStem
  rw [found]
  exact address_child_ne_concat names first second

theorem base_append (named : dir.text ≠ "") (rest : String) :
    (⟨dir.text ++ rest⟩ : Path).base workDir = dir.base workDir := by
  obtain ⟨c, chars, written⟩ := List.exists_cons_of_ne_nil (mt String.toList_eq_nil_iff.mp named)
  have head : (dir.text ++ rest).toList.head? = dir.text.toList.head? := by
    rw [String.toList_append, written]
    rfl
  rw [base, base, isAbsolute, isAbsolute, head]

/-- The segments of a name follow those of the directory, in place of the empty one that a slash at the end
leaves. -/
theorem segments_child_of_relative (dir : Path) (relative : (⟨name⟩ : Path).isAbsolute = false)
    (workDir : Address) :
    (dir.child name).base workDir = dir.base workDir ∧
      ∃ segments, (dir.child name).segments = segments ++ split '/' name ∧
        (dir.segments = segments ∨ dir.segments = segments ++ [""]) := by
  rw [child, join, if_neg (by simp [relative])]
  by_cases blank : dir.text = ""
  · rw [if_pos (.inl blank), blank, String.empty_append]
    refine ⟨?_, [], rfl, .inr ?_⟩
    · have blankToo : dir.isAbsolute = false := by simp [isAbsolute, blank]
      rw [base, base, relative, blankToo]
    · simp [segments, blank, split]
  · by_cases slash : dir.endsInSlash = true
    · rw [if_pos (.inr slash)]
      refine ⟨base_append blank name, ?_⟩
      obtain ⟨front, text⟩ : ∃ front : String, dir.text = front ++ String.singleton '/' := by
        obtain ⟨front, found⟩ := List.getLast?_eq_some_iff.mp (of_decide_eq_true slash)
        exact ⟨String.ofList front, by rw [← String.toList_inj, found]; simp⟩
      refine ⟨split '/' front, ?_, .inr ?_⟩
      · rw [segments, text, split_append_sep]
      · rw [segments, text, ← String.append_empty (s := front ++ _), split_append_sep]
        rfl
    · rw [if_neg (by simp [blank, slash]), String.append_assoc]
      refine ⟨base_append blank _, dir.segments, ?_, .inl rfl⟩
      rw [segments, ← String.append_assoc]
      exact split_append_sep dir.text name

theorem not_isAbsolute_of_plain (plain : '/' ∉ name.toList) : (⟨name⟩ : Path).isAbsolute = false := by
  simp only [isAbsolute, decide_eq_false_iff_not]
  intro slash
  exact plain (List.mem_of_head? slash)

theorem segments_child (dir : Path) (plain : '/' ∉ name.toList) (workDir : Address) :
    (dir.child name).base workDir = dir.base workDir ∧
      ∃ segments, (dir.child name).segments = segments ++ [name] ∧
        (dir.segments = segments ∨ dir.segments = segments ++ [""]) := by
  have behind := segments_child_of_relative dir (not_isAbsolute_of_plain plain) workDir
  rwa [split_of_plain plain] at behind

theorem foldl_turn_of_shorter {segments : List String} {a : Address}
    (shorter : dir.segments = segments ∨ dir.segments = segments ++ [""]) :
    segments.foldl turn a = dir.segments.foldl turn a := by
  rcases shorter with same | idle
  · rw [same]
  · rw [idle, List.foldl_append]
    rfl

theorem address_child (plain : '/' ∉ name.toList) (named : partOf? name = some (.name name)) :
    (dir.child name).address workDir = dir.address workDir ++ [name] := by
  obtain ⟨sameBase, segments, longer, shorter⟩ := segments_child dir plain workDir
  rw [address, sameBase, longer, List.foldl_append, foldl_turn_of_shorter shorter, List.foldl_cons,
    List.foldl_nil, turn_name named, address]

/-- The way of a name with a slash passes the entry of the directory that stands before the slash. -/
theorem mem_trail_child {first : String} (plain : '/' ∉ first.toList)
    (named : partOf? first = some (.name first)) (rest : String) :
    dir.address workDir ++ [first] ∈ (dir.child (first ++ "/" ++ rest)).trail workDir := by
  have relative : (⟨first ++ "/" ++ rest⟩ : Path).isAbsolute = false := by
    have nonempty : first ≠ "" := by
      intro blank
      rw [blank] at named
      contradiction
    obtain ⟨c, chars, written⟩ := List.exists_cons_of_ne_nil (mt String.toList_eq_nil_iff.mp nonempty)
    have absolute := not_isAbsolute_of_plain plain
    rw [isAbsolute, written] at absolute
    rwa [isAbsolute, String.append_assoc, String.toList_append, written]
  obtain ⟨sameBase, segments, longer, shorter⟩ := segments_child_of_relative dir relative workDir
  obtain ⟨next, more, cut⟩ := List.exists_cons_of_ne_nil (split_ne_nil '/' rest)
  have behind : split '/' (first ++ "/" ++ rest) = first :: next :: more := by
    rw [← cut, ← List.singleton_append, ← split_of_plain plain]
    exact split_append_sep first rest
  rw [trail, sameBase, longer, behind, passed_append, passed, passed, foldl_turn_of_shorter shorter,
    turn_name named, address]
  simp

theorem address_child_of_ending (names : NamesEntries ending) (plain : '/' ∉ stem.toList) :
    (dir.child (stem ++ ending)).address workDir = dir.address workDir ++ [stem ++ ending] := by
  refine address_child ?_ (partOf?_ending names stem)
  rw [String.toList_append, List.mem_append, not_or]
  exact ⟨plain, names.1⟩

theorem address_child_inj {other : String} (names : NamesEntries ending) (plain : '/' ∉ stem.toList)
    (otherPlain : '/' ∉ other.toList) :
    (dir.child (stem ++ ending)).address workDir = (dir.child (other ++ ending)).address workDir ↔
      stem = other := by
  rw [address_child_of_ending names plain, address_child_of_ending names otherPlain,
    List.append_cancel_left_eq, List.singleton_inj, String.append_left_inj]

end SpecTest.Path
