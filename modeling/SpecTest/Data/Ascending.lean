/-!
Lists without repetition in the order of a key.

`Ascending key` is a list whose members have strictly ascending keys: a finite set, or a table with
one member for each key.
-/

namespace SpecTest.Data

/-- Puts `a` at its place in an ascending list; it replaces the member with its key. -/
def insertBy (key : α → Int) (a : α) : List α → List α
  | [] => [a]
  | b :: rest =>
    if key a < key b then a :: b :: rest
    else if key a = key b then a :: rest
    else b :: insertBy key a rest

theorem mem_of_mem_insertBy {key : α → Int} {a b : α} {l : List α} (member : b ∈ insertBy key a l) :
    b = a ∨ b ∈ l := by
  induction l with
  | nil => simpa [insertBy] using member
  | cons c rest ih =>
    simp only [insertBy] at member
    split at member
    · simpa using member
    · split at member
      · rcases List.mem_cons.mp member with same | inside
        · exact .inl same
        · exact .inr (List.mem_cons_of_mem c inside)
      · rcases List.mem_cons.mp member with same | inside
        · exact .inr (by simp [same])
        · rcases ih inside with same | inside
          · exact .inl same
          · exact .inr (List.mem_cons_of_mem c inside)

theorem insertBy_ascending {key : α → Int} (a : α) {l : List α}
    (ascending : l.Pairwise fun x y => key x < key y) :
    (insertBy key a l).Pairwise fun x y => key x < key y := by
  induction l with
  | nil => simp [insertBy]
  | cons b rest ih =>
    have below := (List.pairwise_cons.mp ascending).1
    have tail := (List.pairwise_cons.mp ascending).2
    simp only [insertBy]
    split
    · rename_i less
      refine List.pairwise_cons.mpr ⟨?_, ascending⟩
      intro y member
      rcases List.mem_cons.mp member with same | inside
      · exact same ▸ less
      · exact Int.lt_trans less (below y inside)
    · split
      · rename_i same
        exact List.pairwise_cons.mpr ⟨fun y inside => same ▸ below y inside, tail⟩
      · rename_i notLess notSame
        refine List.pairwise_cons.mpr ⟨?_, ih tail⟩
        intro y member
        rcases mem_of_mem_insertBy member with same | inside
        · subst same; omega
        · exact below y inside

structure Ascending {α : Type} (key : α → Int) where
  toList : List α
  ascending : toList.Pairwise fun x y => key x < key y

namespace Ascending

variable {α : Type} {key : α → Int}

def empty : Ascending key := ⟨[], .nil⟩

instance : Inhabited (Ascending key) := ⟨empty⟩

instance [DecidableEq α] : DecidableEq (Ascending key) := fun s t =>
  if same : s.toList = t.toList then
    .isTrue (by cases s; cases t; cases same; rfl)
  else .isFalse fun equal => same (equal ▸ rfl)

def insert (s : Ascending key) (a : α) : Ascending key :=
  ⟨insertBy key a s.toList, insertBy_ascending a s.ascending⟩

/-- The members of a list in order; of two with the same key the later one stays. -/
def ofList (members : List α) : Ascending key := members.foldl insert empty

def size (s : Ascending key) : Nat := s.toList.length

def filter (p : α → Bool) (s : Ascending key) : Ascending key :=
  ⟨s.toList.filter p, s.ascending.filter p⟩

end Ascending

end SpecTest.Data
