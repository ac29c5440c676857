import SpecTest.Proofs.Disk.Entries
import SpecTest.Proofs.Yaml.Steady

/-!
What a record holds under its keys.
-/

namespace SpecTest.Yaml

open SpecTest.Document

variable {α β : Type}

/-- The entries of a record with the nodes that aliases in them stand for. -/
structure Record where
  anchors : List (Nat × Node) := []
  entries : List (String × Nested) := []

namespace Record

variable {r : Record} {key : String} {read : Nested → Read α}

/-- Is this what the record holds under the key, as the reader reads it: nothing if there is no such key? -/
def Holds (r : Record) (key : String) (read : Nested → Read α) : Option α → Prop
  | some a => ∃ node, r.entries.lookup key = some node ∧ Gives r.anchors (read node) a
  | none => r.entries.lookup key = none

theorem Holds.unique {held other : Option α} (steady : ∀ n, Steady (read n)) (holds : r.Holds key read held)
    (holdsToo : r.Holds key read other) : held = other := by
  cases held with
  | none =>
      cases other with
      | none => rfl
      | some b =>
          obtain ⟨node, found, -⟩ := holdsToo
          rw [Holds, found] at holds
          cases holds
  | some a =>
      obtain ⟨node, found, gives⟩ := holds
      cases other with
      | none =>
          rw [Holds, found] at holdsToo
          cases holdsToo
      | some b =>
          obtain ⟨same, foundToo, givesToo⟩ := holdsToo
          rw [found] at foundToo
          cases foundToo
          rw [gives.unique (steady node) givesToo]

end Record

section Reading

variable {names : List String} {key : String} {read : Nested → Read α} {s t : Aliases} {n : Nested}
  {fs : Fields Nested}

theorem fields_eq_some (done : n.fields names s = some (fs, t)) :
    ∃ entries, n.entries s = some (entries, t) ∧ ∃ found, pickFields names entries = some found ∧
      fs = ⟨false, found⟩ := by
  obtain ⟨entries, u, read, rest⟩ := bind_eq_some_iff.mp done
  obtain ⟨found, v, picked, rest⟩ := bind_eq_some_iff.mp rest
  obtain ⟨same, known, here⟩ := Option.map_eq_some_iff.mp picked
  cases here
  cases rest
  exact ⟨entries, read, found, known, rfl⟩

theorem pickFields_lookup {ν : Type} {entries found : List (String × ν)}
    (picked : pickFields names entries = some found) (named : key ∈ names) :
    found.lookup key = entries.lookup key := by
  rw [pickFields] at picked
  split at picked
  · cases picked
    rw [Disk.lookup_filter names.contains, if_pos (by simpa using named)]
  · cases picked

theorem fields_steady (names : List String) (n : Nested) : Steady (n.fields names) :=
  n.entries_steady.bind fun _ => (Steady.ofOption _).bind fun _ => .pure _

theorem given?_steady (steady : ∀ n, Steady (read n)) (fs : Fields Nested) (key : String) :
    Steady (fs.given? key read) := by
  rw [Fields.given?]
  cases fs.found.lookup key with
  | none => exact .pure none
  | some node => exact (steady node).map

/-- A field that was picked is what its record holds under its key, and reading goes on from there. -/
theorem given?_bind_eq_some {anchors : List (Nat × Node)} {entries found : List (String × Nested)}
    {positional : Bool} {next : Option α → Read β} {b : β} (steady : ∀ n, Steady (read n))
    (picked : pickFields names entries = some found) (named : key ∈ names) (known : s.anchors = anchors)
    (done : ((Fields.mk positional found).given? key read >>= next) s = some (b, t)) :
    ∃ held u, Record.Holds ⟨anchors, entries⟩ key read held ∧ u.anchors = anchors ∧
      next held u = some (b, t) := by
  obtain ⟨held, u, given, rest⟩ := bind_eq_some_iff.mp done
  rw [Fields.given?, pickFields_lookup picked named] at given
  cases there : entries.lookup key with
  | none =>
      rw [there] at given
      cases given
      exact ⟨none, _, there, known, rest⟩
  | some node =>
      rw [there] at given
      dsimp only at given
      rw [map_eq_pure_bind] at given
      obtain ⟨a, v, value, done⟩ := bind_eq_some_iff.mp given
      cases done
      subst known
      exact ⟨some a, _, ⟨node, there, s.left, _, value⟩, (steady node).anchors value, rest⟩

end Reading

end SpecTest.Yaml
