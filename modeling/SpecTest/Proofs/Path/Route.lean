import SpecTest.Disk
import SpecTest.Proofs.Text.Splitting

/-!
Where a path leads.

A file system without links has one address for each path, whatever its entries are.  The path can be
followed where the addresses on its way are those of directories.
-/

namespace SpecTest

open SpecTest.Text

namespace Path

def turn (a : Address) (segment : String) : Address :=
  match partOf? segment with
  | some .up => a.dropLast
  | some (.name n) => a ++ [n]
  | _ => a

/-- The addresses from which segments are taken, one for each segment. -/
def passed (a : Address) : List String → List Address
  | [] => []
  | segment :: rest => a :: passed (turn a segment) rest

def base (workDir : Address) (p : Path) : Address := if p.isAbsolute then [] else workDir

def address (workDir : Address) (p : Path) : Address := p.segments.foldl turn (p.base workDir)

def trail (workDir : Address) (p : Path) : List Address := passed (p.base workDir) p.segments

/-- The addresses on the way of a path, with the one that it leads to.  The empty path has none. -/
def route (workDir : Address) (p : Path) : List Address :=
  if p.text = "" then [] else p.trail workDir ++ [p.address workDir]

section Turning

variable {a : Address} {segments : List String}

theorem turn_name {segment : String} (plain : partOf? segment = some (.name segment)) :
    turn a segment = a ++ [segment] := by
  rw [turn, plain]

@[simp] theorem turn_empty : turn a "" = a := rfl

theorem passed_append (first second : List String) :
    passed a (first ++ second) = passed a first ++ passed (first.foldl turn a) second := by
  induction first generalizing a with
  | nil => rfl
  | cons segment first ih =>
      rw [List.cons_append, passed, ih, passed, List.foldl_cons, List.cons_append]

theorem foldl_turn_replicate (count : Nat) : (List.replicate count "").foldl turn a = a := by
  induction count with
  | zero => rfl
  | succ count ih => rw [List.replicate_succ, List.foldl_cons, turn_empty, ih]

theorem passed_replicate (count : Nat) : passed a (List.replicate count "") = List.replicate count a := by
  induction count with
  | zero => rfl
  | succ count ih => rw [List.replicate_succ, List.replicate_succ, passed, turn_empty, ih]

theorem mem_passed_of_front {first : List String} {x : Address} (front : first <+: segments)
    (member : x ∈ passed a first) : x ∈ passed a segments := by
  obtain ⟨rest, rfl⟩ := front
  rw [passed_append]
  exact List.mem_append_left _ member

/-- The end of a shorter way is on the longer one, or is its end too. -/
theorem foldl_mem_passed_of_front {first : List String} (front : first <+: segments) :
    first.foldl turn a ∈ passed a segments ++ [segments.foldl turn a] := by
  obtain ⟨rest, rfl⟩ := front
  cases rest with
  | nil => simp
  | cons segment rest =>
      rw [passed_append, passed]
      simp

end Turning

section Segments

variable {p : Path} {workDir : Address}

theorem not_slash_of_mem_segments {segment : String} (member : segment ∈ p.segments) :
    '/' ∉ segment.toList :=
  not_mem_of_mem_split member

theorem segments_eq_trimmed (p : Path) :
    ∃ count, p.segments = Disk.trimmedSegments p ++ List.replicate count "" := by
  have whole := List.takeWhile_append_dropWhile (p := (· == "")) (l := p.segments.reverse)
  have idle : p.segments.reverse.takeWhile (· == "") =
      List.replicate (p.segments.reverse.takeWhile (· == "")).length "" := by
    rw [List.eq_replicate_iff]
    exact ⟨rfl, fun segment member => by simpa using List.all_eq_true.mp List.all_takeWhile segment member⟩
  refine ⟨(p.segments.reverse.takeWhile (· == "")).length, ?_⟩
  have reversed := congrArg List.reverse whole
  rw [List.reverse_append, List.reverse_reverse, idle, List.reverse_replicate] at reversed
  exact reversed.symm

/-- Only the empty segments behind a slash at the end are trimmed. -/
theorem trimmed_eq_segments (noSlash : p.endsInSlash = false) (named : Disk.trimmedSegments p ≠ []) :
    p.segments = Disk.trimmedSegments p := by
  obtain ⟨count, whole⟩ := p.segments_eq_trimmed
  cases count with
  | zero => simpa using whole
  | succ count =>
      rw [List.replicate_succ', ← List.append_assoc] at whole
      have cut : ∃ parts, parts ≠ [] ∧ splitAt '/' p.text.toList = parts ++ [[]] := by
        obtain ⟨front, last, found, sameFront, sameLast⟩ := List.map_eq_append_iff.mp whole
        obtain ⟨chars, rest, rfl, blank, nothing⟩ := List.map_eq_cons_iff.mp sameLast
        rw [List.map_eq_nil_iff.mp nothing, String.ofList_eq_empty_iff.mp blank] at found
        refine ⟨front, fun none => ?_, found⟩
        rw [none, List.map_nil] at sameFront
        exact named (List.append_eq_nil_iff.mp sameFront.symm).1
      obtain ⟨parts, others, cut⟩ := cut
      simp [endsInSlash, getLast?_of_splitAt others cut] at noSlash

theorem address_eq_trimmed (p : Path) :
    p.address workDir = (Disk.trimmedSegments p).foldl turn (p.base workDir) := by
  obtain ⟨count, split⟩ := p.segments_eq_trimmed
  rw [address, split, List.foldl_append, foldl_turn_replicate]

theorem mem_route_iff {x : Address} (named : p.text ≠ "") :
    x ∈ p.route workDir ↔
      x ∈ passed (p.base workDir) (Disk.trimmedSegments p) ∨ x = p.address workDir := by
  obtain ⟨count, split⟩ := p.segments_eq_trimmed
  rw [route, if_neg named, trail, split, passed_append, passed_replicate, ← address_eq_trimmed]
  simp only [List.mem_append, List.mem_singleton, List.mem_replicate]
  constructor
  · intro listed
    rcases listed with (onWay | ⟨-, atEnd⟩) | atEnd
    · exact .inl onWay
    · exact .inr atEnd
    · exact .inr atEnd
  · intro onRoute
    rcases onRoute with onWay | atEnd
    · exact .inl (.inl onWay)
    · exact .inr atEnd

theorem trail_subset_route {x : Address} (named : p.text ≠ "") (member : x ∈ p.trail workDir) :
    x ∈ p.route workDir := by
  rw [route, if_neg named]
  exact List.mem_append_left _ member

end Segments

end Path

end SpecTest
