import SpecTest.Document.Decode
import SpecTest.Yaml.Format

/-!
Readings of nodes that give the same value wherever they are made.

A reading counts down how often aliases may still be followed, and fails when it was too often.  Where it
does not fail, its value depends on the node and on the nodes with anchors alone.
-/

namespace SpecTest.Yaml

open SpecTest.Document

variable {α β : Type}

/-- The reading gives the value where these are the nodes with anchors and aliases may be followed often
enough. -/
def Gives (anchors : List (Nat × Node)) (x : Read α) (a : α) : Prop :=
  ∃ left rest, x ⟨anchors, left⟩ = some (a, rest)

theorem bind_eq_some_iff {x : Read α} {next : α → Read β} {s t : Aliases} {b : β} :
    (x >>= next) s = some (b, t) ↔ ∃ a u, x s = some (a, u) ∧ next a u = some (b, t) := by
  change (x s).bind (fun r => next r.1 r.2) = some (b, t) ↔ _
  rw [Option.bind_eq_some_iff]
  constructor
  · rintro ⟨⟨a, u⟩, first, done⟩
    exact ⟨a, u, first, done⟩
  · rintro ⟨a, u, first, done⟩
    exact ⟨⟨a, u⟩, first, done⟩

structure Steady (x : Read α) : Prop where
  anchors : ∀ {s t : Aliases} {a : α}, x s = some (a, t) → t.anchors = s.anchors
  value : ∀ {s t s' t' : Aliases} {a b : α}, s.anchors = t.anchors → x s = some (a, s') →
    x t = some (b, t') → a = b

theorem Gives.unique {anchors : List (Nat × Node)} {x : Read α} {a b : α} (steady : Steady x)
    (gives : Gives anchors x a) (givesToo : Gives anchors x b) : a = b := by
  obtain ⟨left, rest, first⟩ := gives
  obtain ⟨leftToo, restToo, second⟩ := givesToo
  have same : (Aliases.mk anchors left).anchors = (Aliases.mk anchors leftToo).anchors := rfl
  exact steady.value same first second

namespace Steady

theorem pure (a : α) : Steady (Pure.pure a : Read α) where
  anchors done := by
    cases done
    rfl
  value _ first second := by
    cases first
    cases second
    rfl

theorem failure : Steady (failure : Read α) where
  anchors done := by cases done
  value _ first _ := by cases first

theorem ofOption (a : Option α) : Steady (Read.ofOption a) := by
  cases a with
  | none => exact failure
  | some a => exact pure a

theorem bind {x : Read α} {next : α → Read β} (first : Steady x) (second : ∀ a, Steady (next a)) :
    Steady (x >>= next) where
  anchors done := by
    obtain ⟨a, u, here, there⟩ := bind_eq_some_iff.mp done
    exact ((second a).anchors there).trans (first.anchors here)
  value same done doneToo := by
    obtain ⟨a, u, here, there⟩ := bind_eq_some_iff.mp done
    obtain ⟨b, v, hereToo, thereToo⟩ := bind_eq_some_iff.mp doneToo
    cases first.value same here hereToo
    have kept := (first.anchors here).trans (same.trans (first.anchors hereToo).symm)
    exact (second a).value kept there thereToo

theorem map {f : α → β} {x : Read α} (steady : Steady x) : Steady (f <$> x) := by
  rw [map_eq_pure_bind]
  exact steady.bind fun a => pure (f a)

theorem mapM {γ : Type} {items : List γ} {f : γ → Read α} (each : ∀ item, Steady (f item)) :
    Steady (items.mapM f) := by
  induction items with
  | nil => exact pure _
  | cons item items ih =>
      rw [List.mapM_cons]
      exact (each item).bind fun _ => ih.bind fun _ => pure _

end Steady

section Following

theorem followAnchor_eq_some {anchor : Nat} {s t : Aliases} {n : Node}
    (done : followAnchor anchor s = some (n, t)) :
    t.anchors = s.anchors ∧ s.anchors.lookup anchor = some n := by
  rw [followAnchor] at done
  split at done
  · cases done
  · obtain ⟨found, known, same⟩ := Option.map_eq_some_iff.mp done
    cases same
    exact ⟨rfl, known⟩

/-- A node is followed if it is an alias, and is itself the end of its chain otherwise. -/
theorem follow_cases (n : Nested) :
    (∃ anchor, ∀ fuel, n.follow (fuel + 1) = followAnchor anchor >>= fun node =>
      Nested.follow fuel ⟨n.room, node⟩) ∨ ∀ fuel, n.follow (fuel + 1) = pure n := by
  obtain ⟨room, node⟩ := n
  cases node with
  | reference anchor => exact .inl ⟨anchor, fun _ => rfl⟩
  | scalar text style tag => exact .inr fun _ => rfl
  | sequence items tag => exact .inr fun _ => rfl
  | mapping entries tag => exact .inr fun _ => rfl

theorem follow_anchors {fuel : Nat} {n m : Nested} {s t : Aliases}
    (done : n.follow fuel s = some (m, t)) : t.anchors = s.anchors := by
  induction fuel generalizing n s with
  | zero => cases done
  | succ fuel ih =>
      rcases follow_cases n with ⟨anchor, follows⟩ | ends
      · rw [follows] at done
        obtain ⟨target, u, followed, rest⟩ := bind_eq_some_iff.mp done
        exact (ih rest).trans (followAnchor_eq_some followed).1
      · rw [ends] at done
        cases done
        rfl

/-- The end of a chain of aliases is the same however long the chain may be. -/
theorem follow_value {fuel other : Nat} {n m k : Nested} {s t s' t' : Aliases} (same : s.anchors = t.anchors)
    (done : n.follow fuel s = some (m, s')) (doneToo : n.follow other t = some (k, t')) : m = k := by
  induction fuel generalizing n s t other with
  | zero => cases done
  | succ fuel ih =>
      cases other with
      | zero => cases doneToo
      | succ other =>
          rcases follow_cases n with ⟨anchor, follows⟩ | ends
          · rw [follows] at done doneToo
            obtain ⟨target, u, followed, rest⟩ := bind_eq_some_iff.mp done
            obtain ⟨targetToo, v, followedToo, restToo⟩ := bind_eq_some_iff.mp doneToo
            obtain ⟨kept, known⟩ := followAnchor_eq_some followed
            obtain ⟨keptToo, knownToo⟩ := followAnchor_eq_some followedToo
            rw [same, knownToo] at known
            cases known
            exact ih (kept.trans (same.trans keptToo.symm)) rest restToo
          · rw [ends] at done doneToo
            cases done
            cases doneToo
            rfl

end Following

namespace Nested

variable (n : Nested)

theorem direct_steady : Steady n.direct where
  anchors done := by
    obtain ⟨here, u, read, rest⟩ := bind_eq_some_iff.mp done
    cases read
    exact follow_anchors rest
  value same done doneToo := by
    obtain ⟨here, u, read, rest⟩ := bind_eq_some_iff.mp done
    obtain ⟨hereToo, v, readToo, restToo⟩ := bind_eq_some_iff.mp doneToo
    cases read
    cases readToo
    exact follow_value same rest restToo

theorem text_steady : Steady n.text := by
  refine n.direct_steady.bind fun target => ?_
  split
  · exact .pure _
  · exact .failure

theorem bool_steady : Steady n.bool := n.direct_steady.bind fun _ => .ofOption _

theorem signed_steady (bits : Nat) : Steady (n.signed bits) := by
  refine n.direct_steady.bind fun target => (Steady.ofOption _).bind fun v => ?_
  dsimp only
  split
  · exact .pure _
  · exact .failure

theorem optional_steady : Steady n.optional := by
  refine n.direct_steady.bind fun target => ?_
  split
  · exact .pure _
  · split
    · exact .pure _
    · split
      · exact .pure _
      · exact .failure
  · exact .pure _

theorem items_steady : Steady n.items := by
  refine n.direct_steady.bind fun target => ?_
  split
  · split
    · exact .failure
    · exact .pure _
  · split
    · exact .pure _
    · exact .failure

theorem entries_steady : Steady n.entries := by
  refine n.direct_steady.bind fun target => ?_
  split
  · split
    · exact .failure
    · exact .mapM fun e => (text_steady _).bind fun _ => .pure _
  · split
    · exact .pure _
    · exact .failure

theorem choice_steady : Steady n.choice := by
  refine n.direct_steady.bind fun target => ?_
  split
  · split
    · split
      · exact .pure _
      · exact .pure _
    · exact .pure _
  · split
    · exact .pure _
    · exact .failure
  · split
    · exact .pure _
    · exact .failure
  · exact .failure

theorem unit_steady : Steady n.unit := by
  refine n.direct_steady.bind fun target => ?_
  split
  · split
    · exact .pure _
    · exact .failure
  · exact .failure

end Nested

section Values

variable {read : Nested → Read α}

theorem option_steady (each : ∀ n, Steady (read n)) (n : Nested) : Steady (format.option read n) := by
  refine n.optional_steady.bind fun found => ?_
  cases found with
  | none => exact .pure _
  | some inner => exact (each inner).map

theorem list_steady (each : ∀ n, Steady (read n)) (n : Nested) : Steady (format.list read n) :=
  n.items_steady.bind fun _ => .mapM each

theorem named_steady (cases : List (String × α)) (n : Nested) : Steady (format.named cases n) := by
  refine n.choice_steady.bind fun choice => ?_
  obtain ⟨name, body⟩ := choice
  dsimp only
  cases cases.lookup name with
  | none =>
      cases body with
      | none => exact .failure
      | some b => exact b.unit_steady.bind fun _ => .failure
  | some a =>
      cases body with
      | none => exact .pure a
      | some b => exact b.unit_steady.bind fun _ => .pure a

theorem readPath_steady (n : Nested) : Steady (readPath format n) := n.text_steady.map

theorem readGeneration_steady (n : Nested) : Steady (readGeneration format n) := named_steady _ n

theorem readCodeSet_steady (n : Nested) : Steady (readCodeSet format n) :=
  (list_steady (fun item => (item.signed_steady 64).map) n).map

end Values

end SpecTest.Yaml
