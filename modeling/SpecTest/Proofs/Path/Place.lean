import Mathlib.Data.List.Induction
import Mathlib.Data.Finset.Dedup
import Mathlib.Data.Fintype.EquivFin
import SpecTest.Proofs.Path.Spelling

/-!
Where a path leads when its `.` and `..` are resolved, whatever is on the disk.

A path that does not start at the root leads up through some directories and then down through others, as
seen from any place.  What it leads to is the place of its front followed by that of its rest.
-/

namespace SpecTest.Path

/-- A place as seen from another one: as many directories up, and from there down through those of the names. -/
structure Place where
  up : Nat
  down : List String
deriving DecidableEq, Repr

namespace Place

variable {a b : Place} {parts rest : List PathPart} {workDir : Address}

def here : Place := ⟨0, []⟩

def go (a : Place) : PathPart → Place
  | .up => if a.down = [] then ⟨a.up + 1, []⟩ else ⟨a.up, a.down.dropLast⟩
  | .name n => ⟨a.up, a.down ++ [n]⟩
  | .root | .here => a

def follow (a : Place) (parts : List PathPart) : Place := parts.foldl go a

/-- The place `b` as seen from where `a` is seen, if `b` is seen from `a`. -/
def andThen (a b : Place) : Place :=
  ⟨a.up + (b.up - a.down.length), a.down.take (a.down.length - b.up) ++ b.down⟩

def IsUnder (b a : Place) : Prop := b.up = a.up ∧ a.down <+: b.down

instance (b a : Place) : Decidable (b.IsUnder a) :=
  inferInstanceAs (Decidable (b.up = a.up ∧ a.down <+: b.down))

/-- Does the way lead up within the directories only, and down again through those that it left? -/
def ReturnsInto (b : Place) (dirs : List String) : Prop :=
  b.up ≤ dirs.length ∧ dirs.drop (dirs.length - b.up) <+: b.down

def seenFrom (workDir : Address) (a : Place) : Address := workDir.take (workDir.length - a.up) ++ a.down

theorem go_up_of_blank (blank : a.down = []) : a.go .up = ⟨a.up + 1, []⟩ := if_pos blank

theorem go_up_of_named (named : a.down ≠ []) : a.go .up = ⟨a.up, a.down.dropLast⟩ := if_neg named

theorem dropLast_take_drop (names : List String) (count : Nat) :
    (names.take (names.length - count)).dropLast = names.take (names.length - (count + 1)) := by
  rw [List.dropLast_eq_take, List.take_take, List.length_take]
  congr 1
  omega

theorem go_andThen (a b : Place) (part : PathPart) : (a.andThen b).go part = a.andThen (b.go part) := by
  cases part with
  | root => rfl
  | here => rfl
  | name n => simp only [go, andThen, List.append_assoc]
  | up =>
      by_cases blank : b.down = []
      · have further : (a.andThen b).down = a.down.take (a.down.length - b.up) := by
          rw [andThen, blank, List.append_nil]
        rw [go_up_of_blank blank]
        by_cases outside : a.down.length ≤ b.up
        · have nothing : (a.andThen b).down = [] := by
            rw [further, Nat.sub_eq_zero_of_le outside, List.take_zero]
          rw [go_up_of_blank nothing, andThen, andThen, Place.mk.injEq,
            Nat.sub_eq_zero_of_le (Nat.le_succ_of_le outside)]
          exact ⟨by dsimp only; omega, rfl⟩
        · have named : (a.andThen b).down ≠ [] := by
            rw [further, ← List.length_pos_iff, List.length_take]
            omega
          rw [go_up_of_named named, further, dropLast_take_drop, andThen, andThen, Place.mk.injEq,
            List.append_nil]
          exact ⟨by dsimp only; omega, rfl⟩
      · have named : (a.andThen b).down ≠ [] := List.append_ne_nil_of_right_ne_nil _ blank
        rw [go_up_of_named named, go_up_of_named blank, andThen, andThen,
          List.dropLast_append_of_ne_nil blank]

theorem follow_append (a : Place) (parts rest : List PathPart) :
    a.follow (parts ++ rest) = (a.follow parts).follow rest :=
  List.foldl_append

theorem follow_eq (a : Place) (parts : List PathPart) : a.follow parts = a.andThen (here.follow parts) := by
  induction parts using List.reverseRecOn with
  | nil => simp [follow, here, andThen]
  | append_singleton parts part ih =>
      rw [follow_append, follow_append, ih]
      exact go_andThen _ _ _

theorem andThen_isUnder_iff : (a.andThen b).IsUnder a ↔ b.ReturnsInto a.down := by
  rw [IsUnder, ReturnsInto, andThen]
  refine and_congr (by dsimp only; omega) ?_
  have behind : a.down.take (a.down.length - b.up) ++ a.down.drop (a.down.length - b.up) <+:
      a.down.take (a.down.length - b.up) ++ b.down ↔ a.down.drop (a.down.length - b.up) <+: b.down :=
    List.prefix_append_right_inj _
  rwa [List.take_append_drop] at behind

theorem follow_of_not_up (noUp : .up ∉ parts) (a : Place) : (a.follow parts).up = a.up := by
  induction parts generalizing a with
  | nil => rfl
  | cons part rest ih =>
      obtain ⟨other, noUp⟩ := not_or.mp (mt List.mem_cons.mpr noUp)
      rw [follow, List.foldl_cons, ← follow, ih noUp]
      cases part with
      | up => contradiction
      | root | here | name n => rfl

theorem returnsInto_of_up_eq_zero (stays : b.up = 0) (dirs : List String) : b.ReturnsInto dirs := by
  rw [ReturnsInto, stays, Nat.sub_zero, List.drop_length]
  exact ⟨Nat.zero_le _, List.nil_prefix⟩

theorem turn_seenFrom (a : Place) (segment : String) :
    turn (a.seenFrom workDir) segment = ((partOf? segment).elim a a.go).seenFrom workDir := by
  cases stands : partOf? segment with
  | none => rw [turn, stands]; rfl
  | some part =>
      rw [turn, stands]
      cases part with
      | root | here => rfl
      | name n => simp only [Option.elim_some, go, seenFrom, List.append_assoc]
      | up =>
          rw [Option.elim_some]
          by_cases blank : a.down = []
          · rw [go_up_of_blank blank, seenFrom, seenFrom, blank, List.append_nil, List.append_nil]
            exact dropLast_take_drop workDir a.up
          · rw [go_up_of_named blank]
            exact List.dropLast_append_of_ne_nil blank

theorem foldl_turn_seenFrom (segments : List String) (a : Place) :
    segments.foldl turn (a.seenFrom workDir) =
      (a.follow (segments.filterMap partOf?)).seenFrom workDir := by
  induction segments generalizing a with
  | nil => rfl
  | cons segment rest ih =>
      rw [List.foldl_cons, turn_seenFrom, ih]
      cases stands : partOf? segment with
      | none => rw [List.filterMap_cons_none stands]; rfl
      | some part => rw [List.filterMap_cons_some stands]; rfl

/-- A place lies under another one that is no higher exactly where it does so seen from everywhere. -/
theorem isUnder_iff_seenFrom (notHigher : a.up ≤ b.up) :
    b.IsUnder a ↔ ∀ workDir, a.seenFrom workDir <+: b.seenFrom workDir := by
  constructor
  · intro under workDir
    rw [seenFrom, seenFrom, under.1, List.prefix_append_right_inj]
    exact under.2
  · intro everywhere
    -- A working directory that is just deep enough, with a name that is not among those on the way down.
    obtain ⟨fresh, unknown⟩ := Infinite.exists_notMem_finset b.down.toFinset
    have here := everywhere (List.replicate b.up fresh)
    rw [seenFrom, seenFrom, List.length_replicate, Nat.sub_self, List.take_zero, List.nil_append,
      List.take_replicate] at here
    have same : b.up - a.up = 0 := by
      by_contra deeper
      refine unknown (List.mem_toFinset.mpr (here.subset (List.mem_append_left _ ?_)))
      exact List.mem_replicate.mpr ⟨by omega, rfl⟩
    rw [same, Nat.zero_min, List.replicate_zero, List.nil_append] at here
    exact ⟨by omega, here⟩

end Place

variable {p root : Path} {rest : List PathPart}

def place (p : Path) : Place := Place.here.follow p.parts

/-- Does the path lead to the root directory or below it, once the `.` and `..` of both are resolved? -/
def LiesUnder (p root : Path) : Prop := p.place.IsUnder root.place

instance (p root : Path) : Decidable (p.LiesUnder root) :=
  inferInstanceAs (Decidable (p.place.IsUnder root.place))

theorem place_of_relative (relative : p.isAbsolute = false) : p.place = Place.here.follow p.counted := by
  rw [place, parts, if_neg (by simp [relative])]
  split <;> rfl

theorem address_of_relative (relative : p.isAbsolute = false) (workDir : Address) :
    p.address workDir = p.place.seenFrom workDir := by
  have start : p.base workDir = Place.here.seenFrom workDir := by
    rw [base, if_neg (by simp [relative]), Place.seenFrom, Place.here, Nat.sub_zero, List.take_length,
      List.append_nil]
  rw [address, start, Place.foldl_turn_seenFrom, place_of_relative relative, counted]

/-- A path that starts with the parts of a root lies under it where the rest returns to the directories of the
root that it leaves. -/
theorem liesUnder_iff (relative : p.isAbsolute = false) (rootRelative : root.isAbsolute = false)
    (split : p.parts = root.counted ++ rest) :
    (p.LiesUnder root ↔ (Place.here.follow rest).ReturnsInto root.place.down) ∧
      (p.LiesUnder root ↔ ∀ workDir, root.address workDir <+: p.address workDir) := by
  have whole : p.place = root.place.andThen (Place.here.follow rest) := by
    rw [place, split, Place.follow_append, ← place_of_relative rootRelative, Place.follow_eq]
  constructor
  · rw [LiesUnder, whole, Place.andThen_isUnder_iff]
  · have notHigher : root.place.up ≤ p.place.up := by
      rw [whole]
      exact Nat.le_add_right _ _
    rw [LiesUnder, Place.isUnder_iff_seenFrom notHigher]
    simp only [address_of_relative relative, address_of_relative rootRelative]

theorem liesUnder_of_not_up (relative : p.isAbsolute = false) (rootRelative : root.isAbsolute = false)
    (split : p.parts = root.counted ++ rest) (noUp : .up ∉ rest) : p.LiesUnder root := by
  rw [(liesUnder_iff relative rootRelative split).1]
  exact Place.returnsInto_of_up_eq_zero (Place.follow_of_not_up noUp _) _

end SpecTest.Path
