import Mathlib.Data.List.Basic
import SpecTest.Proofs.Path.Child
import SpecTest.Proofs.Path.Parent

/-!
Spellings of one path.

Segments that do not count may be put into a path or taken from it, as long as it still starts at the root or
still does not.  All spellings have the same normal path, also behind a directory that is spelled in its own
way.
-/

namespace SpecTest.Path

open SpecTest.Text

variable {p q base : Path} {segment : String} {part : PathPart} {parts : List PathPart}

/-- Spellings of one path: a step puts in a segment that does not count, such as the `.` in `a/./b` or the
empty one of a slash that is doubled or stands at the end. -/
inductive Respelled : Path → Path → Prop where
  | refl (p : Path) : Respelled p p
  | symm {p q : Path} : Respelled p q → Respelled q p
  | trans {p q r : Path} : Respelled p q → Respelled q r → Respelled p r
  | idle {p q : Path} (front back : List String) (segment : String)
      (uncounted : segment = "" ∨ segment = ".") (before : p.segments = front ++ back)
      (after : q.segments = front ++ segment :: back) (sameStart : p.isAbsolute = q.isAbsolute) :
      Respelled p q

section Counting

/-- The parts of a path behind its start. -/
def counted (p : Path) : List PathPart := p.segments.filterMap partOf?

def startParts (p : Path) : List PathPart := if p.isAbsolute then [.root] else []

theorem partOf?_eq_none_iff : partOf? segment = none ↔ segment = "" ∨ segment = "." := by
  rw [partOf?]
  split
  · rename_i uncounted
    exact iff_of_true rfl uncounted
  · rename_i counts
    refine iff_of_false ?_ counts
    split <;> exact Option.some_ne_none _

theorem partOf?_eq_some (stands : partOf? segment = some part) :
    partText part = segment ∧ part ≠ .here ∧ part ≠ .root := by
  rw [partOf?] at stands
  split at stands
  · contradiction
  · split at stands
    · rename_i up
      cases stands
      exact ⟨up.symm, by simp, by simp⟩
    · cases stands
      exact ⟨rfl, by simp, by simp⟩

theorem exists_of_mem_counted (member : part ∈ p.counted) :
    ∃ segment ∈ p.segments, partOf? segment = some part :=
  List.mem_filterMap.mp member

theorem ne_here_of_mem_counted (member : part ∈ p.counted) : part ≠ .here := by
  obtain ⟨_, -, stands⟩ := exists_of_mem_counted member
  exact (partOf?_eq_some stands).2.1

theorem ne_root_of_mem_counted (member : part ∈ p.counted) : part ≠ .root := by
  obtain ⟨_, -, stands⟩ := exists_of_mem_counted member
  exact (partOf?_eq_some stands).2.2

theorem partOf?_partText (member : part ∈ p.counted) : partOf? (partText part) = some part := by
  obtain ⟨_, -, stands⟩ := exists_of_mem_counted member
  rwa [(partOf?_eq_some stands).1]

theorem not_slash_of_mem_counted (member : part ∈ p.counted) : '/' ∉ (partText part).toList := by
  obtain ⟨_, inside, stands⟩ := exists_of_mem_counted member
  rw [(partOf?_eq_some stands).1]
  exact not_slash_of_mem_segments inside

theorem filter_parts (p : Path) : p.parts.filter (· ≠ .here) = p.startParts ++ p.counted := by
  have all : p.counted.filter (· ≠ .here) = p.counted :=
    List.filter_eq_self.mpr fun part member => decide_eq_true (ne_here_of_mem_counted member)
  rw [parts, startParts]
  split
  · exact List.filter_cons_of_pos (by simp) |>.trans (congrArg _ all)
  · split
    · exact List.filter_cons_of_neg (by simp) |>.trans all
    · exact all

theorem normalize_eq (p : Path) : p.normalize = ofParts (p.startParts ++ p.counted) := by
  rw [normalize, filter_parts]

theorem Respelled.sameParts (spelled : Respelled p q) :
    p.isAbsolute = q.isAbsolute ∧ p.counted = q.counted := by
  induction spelled with
  | refl p => exact ⟨rfl, rfl⟩
  | symm _ ih => exact ⟨ih.1.symm, ih.2.symm⟩
  | trans _ _ first second => exact ⟨first.1.trans second.1, first.2.trans second.2⟩
  | idle front back segment uncounted before after sameStart =>
      have none : partOf? segment = none := if_pos uncounted
      refine ⟨sameStart, ?_⟩
      rw [counted, counted, before, after, List.filterMap_append, List.filterMap_append,
        List.filterMap_cons_none none]

end Counting

section Joining

theorem isAbsolute_eq_of_base (same : ∀ workDir, p.base workDir = q.base workDir) :
    p.isAbsolute = q.isAbsolute := by
  have here := same [""]
  rw [Path.base, Path.base] at here
  cases first : p.isAbsolute <;> cases second : q.isAbsolute <;> simp [first, second] at here ⊢

theorem join_of_absolute (absolute : p.isAbsolute = true) : base.join p = p := if_pos absolute

theorem join_of_relative (base : Path) (relative : p.isAbsolute = false) :
    (base.join p).isAbsolute = base.isAbsolute ∧ (base.join p).counted = base.counted ++ p.counted := by
  have joined (workDir : Address) : (base.join p).base workDir = base.base workDir ∧
      ∃ segments, (base.join p).segments = segments ++ p.segments ∧
        (base.segments = segments ∨ base.segments = segments ++ [""]) :=
    segments_child_of_relative base relative workDir
  refine ⟨isAbsolute_eq_of_base fun workDir => (joined workDir).1, ?_⟩
  obtain ⟨-, segments, longer, shorter⟩ := joined []
  have sameCounted : base.counted = segments.filterMap partOf? := by
    rcases shorter with same | idle
    · rw [counted, same]
    · rw [counted, idle, List.filterMap_append]
      exact List.append_nil _
  rw [sameCounted, counted, counted, longer, List.filterMap_append]

theorem Respelled.normalize_join {base' : Path} (bases : Respelled base base') (files : Respelled p q) :
    (base.join p).normalize = (base'.join q).normalize := by
  obtain ⟨sameStart, sameCounted⟩ := bases.sameParts
  obtain ⟨sameFileStart, sameFileCounted⟩ := files.sameParts
  have same : (base.join p).isAbsolute = (base'.join q).isAbsolute ∧
      (base.join p).counted = (base'.join q).counted := by
    by_cases absolute : p.isAbsolute = true
    · rw [join_of_absolute absolute, join_of_absolute (sameFileStart ▸ absolute)]
      exact ⟨sameFileStart, sameFileCounted⟩
    · have relative : p.isAbsolute = false := Bool.eq_false_iff.mpr absolute
      obtain ⟨start, behind⟩ := join_of_relative base relative
      obtain ⟨start', behind'⟩ := join_of_relative base' (sameFileStart ▸ relative)
      rw [start, start', behind, behind', sameStart, sameCounted, sameFileCounted]
      exact ⟨rfl, rfl⟩
  rw [normalize_eq, normalize_eq, startParts, startParts, same.1, same.2]

theorem Respelled.normalize (spelled : Respelled p q) : p.normalize = q.normalize := by
  rw [normalize_eq, normalize_eq, startParts, startParts, spelled.sameParts.1, spelled.sameParts.2]

end Joining

section Canonical

/-- The path with the segments. -/
def ofSegments (segments : List String) : Path := ⟨"/".intercalate segments⟩

/-- Segments that do not count, in front of which nothing can be put that changes where the path starts. -/
def startSegments (p : Path) : List String := if p.isAbsolute then ["", ""] else ["."]

theorem segments_ofSegments {segments : List String} (nonempty : segments ≠ [])
    (plain : ∀ segment ∈ segments, '/' ∉ segment.toList) : (ofSegments segments).segments = segments :=
  segments_of_relative nonempty plain rfl

theorem isAbsolute_ofSegments_start {rest : List String} (plain : ∀ segment ∈ rest, '/' ∉ segment.toList) :
    (ofSegments (p.startSegments ++ rest)).isAbsolute = p.isAbsolute := by
  rw [startSegments]
  cases absolute : p.isAbsolute with
  | false =>
      rw [Bool.eq_false_iff]
      intro found
      obtain ⟨text, -, cut⟩ := segments_absolute found
      rw [segments_ofSegments (by simp) (by simpa using plain)] at cut
      exact absurd (List.cons.inj cut).1 (by decide)
  | true =>
      rw [ofSegments, isAbsolute, if_pos rfl]
      simp [String.toList_intercalate]

theorem segments_ofSegments_start {rest : List String} (plain : ∀ segment ∈ rest, '/' ∉ segment.toList) :
    (ofSegments (p.startSegments ++ rest)).segments = p.startSegments ++ rest := by
  refine segments_ofSegments ?_ ?_
  · rw [startSegments]
    split <;> simp
  · rw [startSegments]
    split <;> simpa using plain

/-- Behind the start, segments that do not count can be dropped one after the other. -/
theorem Respelled.dropIdles {todo : List String} (done : List String)
    (plain : ∀ segment ∈ done ++ todo, '/' ∉ segment.toList) :
    Respelled (ofSegments (p.startSegments ++ (done ++ todo)))
      (ofSegments (p.startSegments ++ (done ++ (todo.filterMap partOf?).map partText))) := by
  induction todo generalizing done with
  | nil => exact .refl _
  | cons segment todo ih =>
      have plainRest : ∀ other ∈ done ++ todo, '/' ∉ other.toList := fun other inside =>
        plain other (List.mem_append.mpr ((List.mem_append.mp inside).imp_right (List.mem_cons_of_mem _)))
      cases stands : partOf? segment with
      | none =>
          rw [List.filterMap_cons_none stands]
          refine .trans (.symm (.idle (p.startSegments ++ done) todo segment (partOf?_eq_none_iff.mp stands)
            ?_ ?_ ?_)) (ih done plainRest)
          · rw [segments_ofSegments_start plainRest, List.append_assoc]
          · rw [segments_ofSegments_start plain, List.append_assoc]
          · rw [isAbsolute_ofSegments_start plainRest, isAbsolute_ofSegments_start plain]
      | some part =>
          have moved := ih (done ++ [segment]) (by simpa using plain)
          rw [List.filterMap_cons_some stands, List.map_cons, (partOf?_eq_some stands).1]
          simpa using moved

theorem Respelled.canonical (p : Path) :
    Respelled p (ofSegments (p.startSegments ++ p.counted.map partText)) := by
  have plain : ∀ segment ∈ p.segments, '/' ∉ segment.toList := fun _ => not_slash_of_mem_segments
  cases absolute : p.isAbsolute with
  | false =>
      have start : p.startSegments = ["."] := by rw [startSegments, absolute, if_neg Bool.false_ne_true]
      refine .trans (.idle [] p.segments "." (.inr rfl) rfl ?_ ?_) (.dropIdles [] plain)
      · exact (segments_ofSegments_start plain).trans (by rw [start]; rfl)
      · exact (isAbsolute_ofSegments_start plain).symm
  | true =>
      obtain ⟨text, -, cut⟩ := segments_absolute absolute
      have start : p.startSegments = ["", ""] := by rw [startSegments, absolute, if_pos rfl]
      rw [cut] at plain
      have plainRest : ∀ segment ∈ split '/' text, '/' ∉ segment.toList := fun segment member =>
        plain segment (List.mem_cons_of_mem _ member)
      have sameCounted : p.counted = (split '/' text).filterMap partOf? := by
        rw [counted, cut]
        rfl
      rw [sameCounted]
      refine .trans (.idle [""] (split '/' text) "" (.inl rfl) cut ?_ ?_) (.dropIdles [] plainRest)
      · exact (segments_ofSegments_start plainRest).trans (by rw [start]; rfl)
      · exact (isAbsolute_ofSegments_start plainRest).symm

theorem respelled_iff : Respelled p q ↔ p.isAbsolute = q.isAbsolute ∧ p.counted = q.counted := by
  constructor
  · intro spelled
    exact spelled.sameParts
  · intro same
    refine .trans (.canonical p) ?_
    rw [startSegments, same.1, same.2]
    exact .symm (.canonical q)

theorem Respelled.address_eq (spelled : Respelled p q) (workDir : Address) :
    p.address workDir = q.address workDir := by
  induction spelled with
  | refl p => rfl
  | symm _ ih => exact ih.symm
  | trans _ _ first second => exact first.trans second
  | idle front back segment uncounted before after sameStart =>
      have none : partOf? segment = none := if_pos uncounted
      have stays (a : Address) : turn a segment = a := by rw [turn, none]
      rw [address, address, base, base, sameStart, before, after, List.foldl_append, List.foldl_append,
        List.foldl_cons, stays]

/-- Paths that are taken for one path lead to one address. -/
theorem respelled_of_same (same : p.same q = true) : Respelled p q := by
  have parts := congrArg (List.filter (· ≠ .here)) (beq_iff_eq.mp same)
  have notRoot (p : Path) : .root ∉ p.counted := fun member => ne_root_of_mem_counted member rfl
  rw [filter_parts, filter_parts, startParts, startParts] at parts
  refine respelled_iff.mpr ?_
  cases first : p.isAbsolute <;> cases second : q.isAbsolute <;> simp [first, second] at parts
  · exact ⟨rfl, parts⟩
  · exact absurd (parts ▸ List.mem_cons_self) (notRoot p)
  · exact absurd (parts ▸ List.mem_cons_self) (notRoot q)
  · exact ⟨rfl, parts⟩

theorem ofParts_counted (p : Path) : ofParts p.counted = ofSegments (p.counted.map partText) := by
  rw [ofParts.eq_def]
  split
  · rename_i root
    have member : .root ∈ p.counted := root ▸ List.mem_singleton_self _
    exact absurd rfl (ne_root_of_mem_counted member)
  · rfl

/-- A normal path that does not start at the root has no parts but those that count. -/
theorem parts_normalize_of_relative (relative : p.isAbsolute = false) : p.normalize.parts = p.counted := by
  have spelled : p.normalize = ofSegments (p.counted.map partText) := by
    rw [normalize_eq, startParts, relative, if_neg Bool.false_ne_true, List.nil_append, ofParts_counted]
  rw [spelled]
  have known := fun part (member : part ∈ p.counted) => partOf?_partText member
  have plain := fun part (member : part ∈ p.counted) => not_slash_of_mem_counted member
  generalize p.counted = names at known plain
  cases names with
  | nil => rfl
  | cons first rest =>
      have segments : (ofSegments ((first :: rest).map partText)).segments = (first :: rest).map partText :=
        segments_ofSegments (by simp) (by simpa using plain)
      have counts : ¬ (partText first = "" ∨ partText first = ".") := by
        rw [← partOf?_eq_none_iff, known first List.mem_cons_self]
        exact Option.some_ne_none _
      have notAbsolute : ¬ (ofSegments ((first :: rest).map partText)).isAbsolute = true := by
        intro absolute
        obtain ⟨_, -, cut⟩ := segments_absolute absolute
        rw [segments, List.map_cons] at cut
        exact counts (.inl (List.cons.inj cut).1)
      rw [parts, if_neg notAbsolute, segments, if_neg, List.filterMap_map]
      · exact (List.filterMap_congr known).trans List.filterMap_some
      · rw [List.map_cons, List.head?_cons]
        exact fun same => counts (.inr (Option.some.inj same))

instance : Decidable (Respelled p q) := decidable_of_iff _ respelled_iff.symm

example : Respelled ⟨"./src//test/"⟩ ⟨"src/./test"⟩ := by decide +kernel

example : ¬ Respelled ⟨"src/main/../test"⟩ ⟨"src/test"⟩ := by decide +kernel

end Canonical

end SpecTest.Path
