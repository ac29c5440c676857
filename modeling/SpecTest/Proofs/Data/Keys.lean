import Mathlib.Data.List.Basic
import SpecTest.Data.Ascending

/-!
The keys of ascending lists: what is inserted replaces a member, but no key is lost.  Members that
come in order are put one behind the other.  A list is told by the member that it has for each key, which
is the last one that was inserted for it.
-/

namespace SpecTest.Data

variable {α : Type} {key : α → Int} {a : α} {k : Int}

theorem mem_keys_insertBy {l : List α} :
    k ∈ (insertBy key a l).map key ↔ k = key a ∨ k ∈ l.map key := by
  induction l with
  | nil => simp [insertBy]
  | cons b rest ih =>
      rw [insertBy]
      split
      · rw [List.map_cons, List.mem_cons]
      · split
        · rename_i same
          rw [List.map_cons, List.map_cons, List.mem_cons, List.mem_cons, same]
          exact or_self_left.symm
        · rw [List.map_cons, List.map_cons, List.mem_cons, List.mem_cons, ih]
          exact or_left_comm

theorem insertBy_behind {l : List α} (behind : ∀ b ∈ l, key b < key a) : insertBy key a l = l ++ [a] := by
  induction l with
  | nil => rfl
  | cons b rest ih =>
      have less := behind b List.mem_cons_self
      rw [insertBy, if_neg (by omega), if_neg (by omega),
        ih fun c member => behind c (List.mem_cons_of_mem b member), List.cons_append]

theorem find?_insertBy {l : List α} :
    (insertBy key a l).find? (key · == k) = if key a = k then some a else l.find? (key · == k) := by
  induction l with
  | nil => by_cases here : key a = k <;> simp [insertBy, here]
  | cons b rest ih =>
      rw [insertBy]
      split
      · by_cases here : key a = k <;> simp [here]
      · split
        · rename_i same
          by_cases here : key a = k
          · simp [here]
          · rw [if_neg here, List.find?_cons_of_neg (by simpa using here),
              List.find?_cons_of_neg (by simpa [← same] using here)]
        · rename_i other
          by_cases there : key b = k
          · have notHere : key a ≠ k := by omega
            simp [there, notHere]
          · rw [List.find?_cons_of_neg (by simpa using there), ih,
              List.find?_cons_of_neg (by simpa using there)]

namespace Ascending

theorem mem_keys_foldl_insert {members : List α} {s : Ascending key} :
    k ∈ (members.foldl insert s).toList.map key ↔ k ∈ s.toList.map key ∨ k ∈ members.map key := by
  induction members generalizing s with
  | nil => simp
  | cons a rest ih =>
      rw [List.foldl_cons, ih, insert, mem_keys_insertBy, List.map_cons, List.mem_cons]
      rw [or_comm (a := k = key a), or_assoc]

theorem mem_keys_ofList {members : List α} :
    k ∈ (ofList members : Ascending key).toList.map key ↔ k ∈ members.map key := by
  rw [ofList, mem_keys_foldl_insert]
  simp [empty]

/-- Where members are told by their keys, none of them is lost. -/
theorem mem_ofList (injective : Function.Injective key) {members : List α} :
    a ∈ (ofList members : Ascending key).toList ↔ a ∈ members := by
  rw [← List.mem_map_of_injective injective, mem_keys_ofList, List.mem_map_of_injective injective]

theorem toList_foldl_insert {members : List α} {s : Ascending key}
    (ascending : (s.toList ++ members).Pairwise fun a b => key a < key b) :
    (members.foldl insert s).toList = s.toList ++ members := by
  induction members generalizing s with
  | nil => simp
  | cons a rest ih =>
      have behind : ∀ b ∈ s.toList, key b < key a := fun b member =>
        (List.pairwise_append.mp ascending).2.2 b member a List.mem_cons_self
      have inserted : (s.insert a).toList = s.toList ++ [a] := insertBy_behind behind
      rw [List.foldl_cons, ih (by simpa [inserted] using ascending), inserted, List.append_assoc,
        List.singleton_append]

theorem eq_of_toList {s t : Ascending key} (same : s.toList = t.toList) : s = t := by
  cases s
  cases same
  rfl

theorem find?_foldl_insert {members : List α} {s : Ascending key} :
    (members.foldl insert s).toList.find? (key · == k) =
      (members.reverse.find? (key · == k)).or (s.toList.find? (key · == k)) := by
  induction members generalizing s with
  | nil => rfl
  | cons a rest ih =>
      rw [List.foldl_cons, ih, insert, find?_insertBy, List.reverse_cons, List.find?_append, Option.or_assoc]
      by_cases here : key a = k <;> simp [here]

theorem find?_of_mem {s : Ascending key} (member : a ∈ s.toList) :
    s.toList.find? (key · == key a) = some a := by
  obtain ⟨before, behind, split⟩ := List.append_of_mem member
  have ascending := s.ascending
  rw [split, List.pairwise_append] at ascending
  obtain ⟨-, -, smaller⟩ := ascending
  rw [split, List.find?_append, List.find?_eq_none.mpr fun b earlier => ?_]
  · simp
  · have less := smaller b earlier a List.mem_cons_self
    simp only [beq_iff_eq]
    omega

/-- Two ascending lists with the same members are the same list. -/
theorem toList_eq_of_mem {s t : Ascending key} (same : ∀ a, a ∈ s.toList ↔ a ∈ t.toList) :
    s.toList = t.toList := by
  have distinct (u : Ascending key) : u.toList.Nodup := u.ascending.imp fun less equal => by
    rw [equal] at less
    exact Int.lt_irrefl _ less
  refine List.Perm.eq_of_pairwise (fun a b _ _ less greater => ?_) s.ascending t.ascending
    ((List.perm_ext_iff_of_nodup (distinct s) (distinct t)).mpr same)
  exact absurd less (Int.lt_asymm greater)

/-- Two ascending lists with the same member for each key are the same list. -/
theorem eq_of_find? {s t : Ascending key}
    (same : ∀ k, s.toList.find? (key · == k) = t.toList.find? (key · == k)) : s = t := by
  have half {u v : Ascending key}
      (agree : ∀ k, u.toList.find? (key · == k) = v.toList.find? (key · == k)) {a : α}
      (member : a ∈ u.toList) : a ∈ v.toList :=
    List.mem_of_find?_eq_some ((agree (key a)).symm.trans (find?_of_mem member))
  exact eq_of_toList (toList_eq_of_mem fun a => ⟨half same, half fun k => (same k).symm⟩)

/-- The members of an ascending list make the list again. -/
theorem ofList_toList (s : Ascending key) : ofList s.toList = s :=
  eq_of_toList (toList_foldl_insert (s := empty) (by simpa [empty] using s.ascending))

end Ascending

end SpecTest.Data
