import SpecTest.Data.Sum

/-!
Sums over lists of parts.
-/

namespace SpecTest.Data

variable {α β : Type} {items : List α}

theorem length_flatMap_eq_sumOf (items : List α) (parts : α → List β) :
    (items.flatMap parts).length = sumOf (items.map fun item => (parts item).length) := by
  induction items with
  | nil => rfl
  | cons item rest ih => rw [List.flatMap_cons, List.length_append, ih, List.map_cons, sumOf_cons]

theorem sumOf_map_add (items : List α) (f g : α → Nat) :
    sumOf (items.map fun item => f item + g item) = sumOf (items.map f) + sumOf (items.map g) := by
  induction items with
  | nil => rfl
  | cons item rest ih =>
      simp only [List.map_cons, sumOf_cons, ih]
      omega

theorem sumOf_map_eq_zero_iff {f : α → Nat} :
    sumOf (items.map f) = 0 ↔ ∀ item ∈ items, f item = 0 := by
  induction items with
  | nil => simp
  | cons item rest ih => rw [List.map_cons, sumOf_cons, Nat.add_eq_zero_iff, ih, List.forall_mem_cons]

theorem sumOf_map_le {f g : α → Nat} (atMost : ∀ item ∈ items, f item ≤ g item) :
    sumOf (items.map f) ≤ sumOf (items.map g) := by
  induction items with
  | nil => exact Nat.le_refl 0
  | cons item rest ih =>
      rw [List.map_cons, List.map_cons, sumOf_cons, sumOf_cons]
      exact Nat.add_le_add (atMost item List.mem_cons_self) (ih fun other member =>
        atMost other (List.mem_cons_of_mem item member))

/-- Words add up to a word exactly where it is their sum: one that does not fit on the way is missed by no
later addition, since the sum only grows. -/
theorem sumWithin?_eq_some_iff {numbers : List UInt64} {before total : UInt64} :
    sumWithin? before numbers = some total ↔
      total.toNat = before.toNat + sumOf (numbers.map (·.toNat)) := by
  induction numbers generalizing before with
  | nil => rw [sumWithin?, Option.some.injEq, List.map_nil, sumOf_nil, Nat.add_zero, UInt64.toNat_inj, eq_comm]
  | cons n rest ih =>
      rw [sumWithin?, List.map_cons, sumOf_cons, ← Nat.add_assoc]
      by_cases fits : before.toNat + n.toNat < UInt64.size
      · have added : (before + n).toNat = before.toNat + n.toNat :=
          (UInt64.toNat_add before n).trans (Nat.mod_eq_of_lt fits)
        rw [if_pos fits, ih, added]
      · have bounded := total.toNat_lt_size
        rw [if_neg fits]
        constructor
        · intro impossible
          cases impossible
        · intro same
          omega

end SpecTest.Data
