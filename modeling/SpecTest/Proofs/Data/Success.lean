/-!
Computations that succeed or fail, step by step.
-/

namespace SpecTest.Data

variable {ε α β γ : Type}

theorem bind_eq_ok_iff {first : Except ε α} {next : α → Except ε β} {b : β} :
    first >>= next = .ok b ↔ ∃ a, first = .ok a ∧ next a = .ok b := by
  cases first with
  | error reason => exact ⟨fun failed => by contradiction, fun ⟨a, failed, _⟩ => by contradiction⟩
  | ok a => exact ⟨fun done => ⟨a, rfl, done⟩, fun ⟨_, same, done⟩ => by cases same; exact done⟩

theorem bind_eq_error_iff {first : Except ε α} {next : α → Except ε β} {e : ε} :
    first >>= next = .error e ↔ first = .error e ∨ ∃ a, first = .ok a ∧ next a = .error e := by
  cases first with
  | error reason =>
      constructor
      · intro failed
        cases failed
        exact .inl rfl
      · intro failed
        rcases failed with early | ⟨a, done, -⟩
        · cases early
          rfl
        · cases done
  | ok a =>
      constructor
      · intro failed
        exact .inr ⟨a, rfl, failed⟩
      · intro failed
        rcases failed with early | ⟨_, same, late⟩
        · cases early
        · cases same
          exact late

theorem map_eq_error_iff {x : Except ε α} {f : α → β} {e : ε} : x.map f = .error e ↔ x = .error e := by
  cases x <;> simp [Except.map]

theorem exists_map_eq_ok_iff {x : Except ε α} {f : α → β} :
    (∃ b, x.map f = .ok b) ↔ ∃ a, x = .ok a := by
  cases x <;> simp [Except.map]

/-- Taking items one after the other fails with the first one that fails. -/
theorem mapM_eq_error_iff {items : List α} {f : α → Except ε β} {e : ε} : items.mapM f = .error e ↔
    ∃ front item back, items = front ++ item :: back ∧ (∀ i ∈ front, ∃ b, f i = .ok b) ∧
      f item = .error e := by
  induction items with
  | nil =>
      constructor
      · intro failed
        cases failed
      · simp
  | cons first rest ih =>
      rw [List.mapM_cons, bind_eq_error_iff]
      constructor
      · rintro (here | ⟨b, done, failed⟩)
        · exact ⟨[], first, rest, rfl, by simp, here⟩
        · rcases bind_eq_error_iff.mp failed with later | ⟨bs, -, impossible⟩
          · obtain ⟨front, item, back, split, before, there⟩ := ih.mp later
            exact ⟨first :: front, item, back, congrArg (first :: ·) split,
              List.forall_mem_cons.mpr ⟨⟨b, done⟩, before⟩, there⟩
          · cases impossible
      · rintro ⟨front, item, back, split, before, there⟩
        cases front with
        | nil =>
            cases split
            exact .inl there
        | cons _ front =>
            cases split
            obtain ⟨⟨b, done⟩, before⟩ := List.forall_mem_cons.mp before
            refine .inr ⟨b, done, bind_eq_error_iff.mpr (.inl ?_)⟩
            exact ih.mpr ⟨front, item, back, rfl, before, there⟩

theorem pure_eq_ok_iff {a b : α} : (pure a : Except ε α) = .ok b ↔ a = b :=
  ⟨fun same => by cases same; rfl, fun same => by rw [same]; rfl⟩

section Named

variable {items : List α} {name : α → γ} {part : α → Except ε β} {parts : List (γ × β)}

/-- Named parts are all there where each part is. -/
theorem mapM_named_eq_ok_iff : items.mapM (fun i => return (name i, ← part i)) = .ok parts ↔
    parts.map (fun p => (p.1, Except.ok p.2)) = items.map fun i => (name i, part i) := by
  induction items generalizing parts with
  | nil =>
      rw [List.mapM_nil, pure_eq_ok_iff, List.map_nil, List.map_eq_nil_iff, eq_comm]
  | cons item rest ih =>
      simp only [List.mapM_cons, bind_eq_ok_iff, pure_eq_ok_iff, List.map_cons]
      constructor
      · intro made
        obtain ⟨_, ⟨b, first, rfl⟩, others, later, rfl⟩ := made
        rw [List.map_cons, ih.mp later, first]
      · intro named
        obtain ⟨⟨n, b⟩, others, rfl, first, later⟩ := List.map_eq_cons_iff.mp named
        obtain ⟨rfl, first⟩ := Prod.mk.inj first
        exact ⟨_, ⟨b, first.symm, rfl⟩, others, ih.mpr later, rfl⟩

variable (made : parts.map (fun p => (p.1, Except.ok p.2)) = items.map fun i => (name i, part i))

include made

theorem forall_named_iff (holds : γ → Except ε β → Prop) :
    (∀ i ∈ items, holds (name i) (part i)) ↔ ∀ p ∈ parts, holds p.1 (.ok p.2) := by
  have named : (∀ x ∈ items.map fun i => (name i, part i), holds x.1 x.2) ↔
      ∀ i ∈ items, holds (name i) (part i) := List.forall_mem_map
  rw [← named, ← made, List.forall_mem_map]

theorem pairwise_named_iff (agree : γ × Except ε β → γ × Except ε β → Prop) :
    (items.Pairwise fun i j => agree (name i, part i) (name j, part j)) ↔
      parts.Pairwise fun p q => agree (p.1, .ok p.2) (q.1, .ok q.2) := by
  have named := List.pairwise_map (l := items) (f := fun i => (name i, part i)) (R := agree)
  rw [← named, ← made, List.pairwise_map]

theorem parts_of_named : (parts.map (·.2)).map Except.ok = items.map part := by
  have all := congrArg (List.map Prod.snd) made
  rw [List.map_map, List.map_map] at all
  rwa [List.map_map]

theorem names_of_named : parts.map (·.1) = items.map name := by
  have names := congrArg (List.map Prod.fst) made
  rwa [List.map_map, List.map_map] at names

end Named

end SpecTest.Data
