import SpecTest.Proofs.Path.Route

/-!
The path of the directory around an entry keeps to the way of the entry's own path.
-/

namespace SpecTest.Path

open SpecTest.Text

variable {p parent : Path} {workDir : Address}

theorem dropIdle_suffix (relative : Bool) (segments : List String) :
    dropIdle relative segments <:+ segments := by
  induction segments with
  | nil => exact List.suffix_refl []
  | cons segment before ih =>
      rw [dropIdle]
      split
      · exact List.suffix_refl _
      · exact ih.trans (List.suffix_cons segment before)

theorem segments_absolute (absolute : p.isAbsolute = true) :
    ∃ rest, p.text = "/" ++ rest ∧ p.segments = "" :: split '/' rest := by
  obtain ⟨chars, written⟩ : ∃ chars, p.text.toList = '/' :: chars := by
    simp only [isAbsolute, decide_eq_true_eq] at absolute
    exact List.head?_eq_some_iff.mp absolute
  have spelled : p.text = "" ++ String.singleton '/' ++ String.ofList chars := by
    rw [← String.toList_inj, written]
    simp
  refine ⟨String.ofList chars, spelled, ?_⟩
  rw [segments, spelled, split_append_sep]
  rfl

theorem isAbsolute_of_segments {segments : List String} (named : p.text ≠ "")
    (empty : p.segments = "" :: segments) : p.isAbsolute = true := by
  have cut : ∃ parts, splitAt '/' p.text.toList = [] :: parts := by
    obtain ⟨part, parts, found⟩ := List.exists_cons_of_ne_nil (splitAt_ne_nil '/' p.text.toList)
    rw [Path.segments, split, found, List.map_cons, List.cons.injEq] at empty
    exact ⟨parts, by rw [found, String.ofList_eq_empty_iff.mp empty.1]⟩
  obtain ⟨parts, cut⟩ := cut
  rcases eq_nil_or_sep_of_splitAt cut with blank | ⟨rest, slash⟩
  · exact absurd (String.toList_eq_nil_iff.mp blank) named
  · simp [isAbsolute, slash]

/-- What a parent consists of: the first segments of the path, and its slash. -/
theorem parent?_eq_some (found : p.parent? = some parent) :
    ∃ rest, rest <+: (if p.isAbsolute then p.segments.drop 1 else p.segments) ∧
      parent.text = (if p.isAbsolute then "/" else "") ++ "/".intercalate rest := by
  simp only [parent?] at found
  split at found
  · contradiction
  · rename_i last before cut
    cases found
    refine ⟨_, ?_, rfl⟩
    have dropped := dropIdle_suffix (!p.isAbsolute)
      (if p.isAbsolute then p.segments.drop 1 else p.segments).reverse
    rw [cut] at dropped
    have rest := (dropIdle_suffix (!p.isAbsolute) before).trans
      ((List.suffix_cons last before).trans dropped)
    rwa [← List.reverse_prefix, List.reverse_reverse] at rest

section Spelling

variable {segments : List String}

theorem segments_of_relative (nonempty : segments ≠ []) (plain : ∀ segment ∈ segments, '/' ∉ segment.toList)
    (spelled : p.text = "/".intercalate segments) : p.segments = segments := by
  have shape : p.text = (String.singleton '/').intercalate segments := spelled
  rw [Path.segments, shape, split_intercalate nonempty plain]

theorem segments_of_absolute (nonempty : segments ≠ []) (plain : ∀ segment ∈ segments, '/' ∉ segment.toList)
    (spelled : p.text = "/" ++ "/".intercalate segments) : p.segments = "" :: segments := by
  have shape : p.text = "" ++ String.singleton '/' ++ (String.singleton '/').intercalate segments := spelled
  rw [Path.segments, shape, split_append_sep, split_intercalate nonempty plain]
  rfl

end Spelling

section Front

variable {rest : List String} {x : Address}

/-- A path with the first segments of another one keeps to the way of that one. -/
theorem route_of_front (named : p.text ≠ "") (sameBase : parent.base workDir = p.base workDir)
    (front : parent.segments <+: p.segments) (member : x ∈ parent.route workDir) :
    x ∈ p.route workDir := by
  have parentNamed : parent.text ≠ "" := by
    intro blank
    rw [route, if_pos blank] at member
    exact absurd member List.not_mem_nil
  rw [route, if_neg parentNamed, trail, address, sameBase] at member
  rw [route, if_neg named, trail, address]
  rcases List.mem_append.mp member with onWay | atEnd
  · exact List.mem_append_left _ (mem_passed_of_front front onWay)
  · rw [List.mem_singleton.mp atEnd]
    exact foldl_mem_passed_of_front front

theorem nil_mem_route (absolute : p.isAbsolute = true) (named : p.text ≠ "") :
    ([] : Address) ∈ p.route workDir := by
  rw [route, if_neg named, trail, address, base, if_pos absolute]
  exact foldl_mem_passed_of_front List.nil_prefix

theorem parent_route_of_absolute (absolute : p.isAbsolute = true) (named : p.text ≠ "")
    (front : rest <+: p.segments.drop 1) (spelled : parent.text = "/" ++ "/".intercalate rest)
    (member : x ∈ parent.route workDir) : x ∈ p.route workDir := by
  obtain ⟨text, -, cut⟩ := segments_absolute absolute
  rw [cut, List.drop_one, List.tail_cons] at front
  have parentAbsolute : parent.isAbsolute = true := by
    rw [isAbsolute, spelled]
    simp
  cases rest with
  | nil =>
      -- The parent is the root, which has two segments where the path has one in common with it.
      have root : parent = ⟨"/"⟩ := congrArg Path.mk spelled
      have atRoot : x = [] := by
        have segments : (⟨"/"⟩ : Path).segments = ["", ""] := rfl
        rw [root, route, trail, address, segments] at member
        simpa [base, isAbsolute, passed] using member
      rw [atRoot]
      exact nil_mem_route absolute named
  | cons segment rest =>
      have plain : ∀ part ∈ segment :: rest, '/' ∉ part.toList := fun part inside =>
        not_mem_of_mem_split (front.subset inside)
      refine route_of_front named ?_ ?_ member
      · rw [base, base, parentAbsolute, absolute]
      · rw [segments_of_absolute (by simp) plain spelled, cut]
        exact List.cons_prefix_cons.mpr ⟨rfl, front⟩

theorem segments_parent_of_relative (relative : ¬ p.isAbsolute = true) (named : p.text ≠ "")
    (nonempty : rest ≠ []) (front : rest <+: p.segments) (spelled : parent.text = "/".intercalate rest) :
    parent.segments = rest ∧ ¬ parent.isAbsolute = true := by
  have plain : ∀ part ∈ rest, '/' ∉ part.toList := fun part inside =>
    not_slash_of_mem_segments (front.subset inside)
  have parentSegments : parent.segments = rest := segments_of_relative nonempty plain spelled
  refine ⟨parentSegments, fun parentAbsolute => ?_⟩
  obtain ⟨text, -, cut⟩ := segments_absolute parentAbsolute
  obtain ⟨more, whole⟩ := front
  rw [← parentSegments, cut] at whole
  exact relative (isAbsolute_of_segments named whole.symm)

theorem parent_route_of_relative (relative : ¬ p.isAbsolute = true) (named : p.text ≠ "")
    (front : rest <+: p.segments) (spelled : parent.text = "/".intercalate rest)
    (member : x ∈ parent.route workDir) : x ∈ p.route workDir := by
  cases rest with
  | nil =>
      have blank : parent.text = "" := spelled
      rw [route, if_pos blank] at member
      exact absurd member List.not_mem_nil
  | cons segment rest =>
      obtain ⟨parentSegments, parentRelative⟩ :=
        segments_parent_of_relative relative named (by simp) front spelled
      refine route_of_front named ?_ (parentSegments ▸ front) member
      rw [base, base, if_neg parentRelative, if_neg relative]

end Front

theorem parent?_route (named : p.text ≠ "") (found : p.parent? = some parent) {x : Address}
    (member : x ∈ parent.route workDir) : x ∈ p.route workDir := by
  obtain ⟨rest, front, spelled⟩ := parent?_eq_some found
  by_cases absolute : p.isAbsolute = true
  · rw [if_pos absolute] at front spelled
    exact parent_route_of_absolute absolute named front spelled member
  · rw [if_neg absolute] at front spelled
    exact parent_route_of_relative absolute named front (by rw [spelled, String.empty_append]) member

end SpecTest.Path
