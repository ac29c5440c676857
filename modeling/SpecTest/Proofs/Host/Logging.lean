import SpecTest.Proofs.Host.Tasks

/-!
What tasks log: which events they add, whatever the system is like and however they end.
-/

namespace SpecTest.Task

variable {α β : Type} {kind : LogEvent → Prop}

def LogsOnly (kind : LogEvent → Prop) (x : Task (StateM World) α) : Prop :=
  ∀ w, ∃ added : List LogEvent, (x.on w).2.logged = added.reverse ++ w.logged ∧ ∀ e ∈ added, kind e

namespace LogsOnly

theorem of_keeps {x : Task (StateM World) α} (keeps : ∀ w, (x.on w).2.logged = w.logged) :
    LogsOnly kind x := fun w => ⟨[], keeps w, by simp⟩

theorem pure (a : α) : LogsOnly kind (Pure.pure a) := of_keeps fun _ => rfl

theorem ofExcept (e : Except Failure α) : LogsOnly kind (Task.ofExcept e) := of_keeps fun _ => rfl

theorem isThere (p : Path) :
    LogsOnly kind (liftM (Host.isThere p : StateM World Bool) : Task (StateM World) Bool) :=
  of_keeps fun _ => rfl

theorem ofHost {op : StateM World (Except IoError α)}
    (keeps : ∀ w, (op.run w).2.logged = w.logged) : LogsOnly kind (Task.ofHost op) := by
  apply of_keeps
  intro w
  rw [on_ofHost]
  exact keeps w

theorem log {level : LogLevel} {message : String} (logged : kind ⟨level, message⟩) :
    LogsOnly kind (Task.log level message : Task (StateM World) Unit) :=
  fun _ => ⟨[⟨level, message⟩], rfl, by simpa using logged⟩

theorem bind {x : Task (StateM World) α} {next : α → Task (StateM World) β} (first : x.LogsOnly kind)
    (second : ∀ a, (next a).LogsOnly kind) : (x >>= next).LogsOnly kind := by
  intro w
  obtain ⟨before, logged, allBefore⟩ := first w
  rw [on_bind]
  rcases ran : x.on w with ⟨result, v⟩
  rw [ran] at logged
  cases result with
  | error e => exact ⟨before, logged, allBefore⟩
  | ok a =>
      obtain ⟨after, loggedToo, allAfter⟩ := second a v
      refine ⟨before ++ after, ?_, List.forall_mem_append.mpr ⟨allBefore, allAfter⟩⟩
      dsimp only at logged ⊢
      rw [loggedToo, logged, List.reverse_append, List.append_assoc]

end LogsOnly

end SpecTest.Task
