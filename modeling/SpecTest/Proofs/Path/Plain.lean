import SpecTest.Proofs.Path.Child

/-!
Paths that never go up: all addresses on their way lie on the way to their own address.
-/

namespace SpecTest.Path

variable {p dir : Path} {name : String} {workDir a x : Address} {segments : List String}

def Plain (p : Path) : Prop := ".." ∉ p.segments

instance (p : Path) : Decidable p.Plain := inferInstanceAs (Decidable (".." ∉ p.segments))

theorem prefix_turn {segment : String} (plain : segment ≠ "..") : a <+: turn a segment := by
  by_cases idle : segment = "" ∨ segment = "."
  · have stays : turn a segment = a := by rw [turn, partOf?, if_pos idle]
    exact ⟨[], by rw [stays, List.append_nil]⟩
  · have goesOn : turn a segment = a ++ [segment] := turn_name (by rw [partOf?, if_neg idle, if_neg plain])
    exact ⟨[segment], goesOn.symm⟩

theorem prefix_foldl_turn (plain : ".." ∉ segments) : a <+: segments.foldl turn a := by
  induction segments generalizing a with
  | nil => exact List.prefix_refl a
  | cons segment rest ih =>
      simp only [List.mem_cons, not_or] at plain
      exact (prefix_turn (Ne.symm plain.1)).trans (ih plain.2)

theorem prefix_of_mem_passed (plain : ".." ∉ segments) (member : x ∈ passed a segments) :
    x <+: segments.foldl turn a := by
  induction segments generalizing a with
  | nil => exact absurd member List.not_mem_nil
  | cons segment rest ih =>
      rcases List.mem_cons.mp member with rfl | later
      · exact prefix_foldl_turn plain
      · simp only [List.mem_cons, not_or] at plain
        exact ih plain.2 later

theorem prefix_of_mem_trail (plain : p.Plain) (member : x ∈ p.trail workDir) : x <+: p.address workDir :=
  prefix_of_mem_passed plain member

theorem prefix_of_mem_route (plain : p.Plain) (member : x ∈ p.route workDir) : x <+: p.address workDir := by
  rw [route] at member
  split at member
  · exact absurd member List.not_mem_nil
  · rcases List.mem_append.mp member with onWay | atEnd
    · exact prefix_of_mem_trail plain onWay
    · obtain rfl := List.mem_singleton.mp atEnd
      exact List.prefix_refl _

theorem plain_child (plain : dir.Plain) (noSlash : '/' ∉ name.toList) (named : name ≠ "..") :
    (dir.child name).Plain := by
  obtain ⟨-, segments, longer, shorter⟩ := segments_child dir noSlash []
  rw [Plain, longer, List.mem_append, List.mem_singleton, not_or]
  refine ⟨fun member => plain ?_, named.symm⟩
  rcases shorter with same | idle
  · exact same ▸ member
  · exact idle ▸ List.mem_append_left _ member

theorem plain_child_of_ending {stem ending : String} (plain : dir.Plain) (names : NamesEntries ending)
    (noSlash : '/' ∉ stem.toList) : (dir.child (stem ++ ending)).Plain := by
  refine plain_child plain ?_ fun up => ?_
  · rw [String.toList_append, List.mem_append, not_or]
    exact ⟨noSlash, names.1⟩
  · have named := partOf?_ending names stem
    rw [up] at named
    contradiction

end SpecTest.Path
