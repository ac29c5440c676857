import SpecTest.Proofs.Host.Tasks

/-!
How tasks fail: which failures a task can end in, whatever the system is like.
-/

namespace SpecTest.Task

variable {α β γ : Type} {w w' : World} {kind : Failure → Prop}

/-- Two tasks fail where the first does, or the second on what the first leaves. -/
theorem bind_on_eq_error_iff {x : Task (StateM World) α} {next : α → Task (StateM World) β} {e : Failure} :
    (x >>= next).on w = (.error e, w') ↔
      x.on w = (.error e, w') ∨ ∃ a v, x.on w = (.ok a, v) ∧ (next a).on v = (.error e, w') := by
  rw [on_bind]
  rcases x.on w with ⟨result, v⟩
  cases result with
  | error e' => simp
  | ok a =>
      constructor
      · intro failed
        exact .inr ⟨a, v, rfl, failed⟩
      · intro failed
        rcases failed with early | ⟨_, _, first, late⟩
        · cases early
        · cases first
          exact late

theorem on_of_fst_error {x : Task (StateM World) α} {e : Failure} (gives : (x.on w).1 = .error e) :
    x.on w = (.error e, (x.on w).2) := Prod.ext gives rfl

theorem onDisk?_on_eq_error {f : Disk → Except IoError Disk} {e : Failure}
    (failed : (ofHost (World.onDisk? f)).on w = (.error e, w')) : w'.disk = w.disk := by
  rw [on_ofHost] at failed
  obtain ⟨gives, rfl⟩ := Prod.mk.inj failed
  simp only [World.onDisk?, World.onDisk, StateT.run] at gives ⊢
  split at gives
  · cases gives
  · rfl

def FailsOnly (kind : Failure → Prop) (x : Task (StateM World) α) : Prop :=
  ∀ w e w', x.on w = (.error e, w') → kind e

namespace FailsOnly

theorem pure (a : α) : FailsOnly kind (Pure.pure a) := by
  intro w e w' failed
  cases failed

theorem liftM (op : StateM World α) : FailsOnly kind (MonadLiftT.monadLift op : Task (StateM World) α) := by
  intro w e w' failed
  cases failed

theorem log (level : LogLevel) (message : String) :
    FailsOnly kind (Task.log level message : Task (StateM World) Unit) :=
  liftM _

theorem ofExcept {result : Except Failure α} (each : ∀ e, result = .error e → kind e) :
    FailsOnly kind (Task.ofExcept result) := by
  intro w e w' failed
  exact each e (Prod.mk.inj failed).1

theorem ofHost {op : StateM World (Except IoError α)} (each : ∀ reason, kind (.io reason)) :
    FailsOnly kind (Task.ofHost op) := by
  intro w e w' failed
  rw [on_ofHost] at failed
  cases result : (op.run w).1 with
  | error reason =>
      rw [result] at failed
      cases failed
      exact each reason
  | ok a =>
      rw [result] at failed
      cases failed

theorem bind {x : Task (StateM World) α} {next : α → Task (StateM World) β} (first : x.FailsOnly kind)
    (second : ∀ a, (next a).FailsOnly kind) : (x >>= next).FailsOnly kind := by
  intro w e w' failed
  rcases bind_on_eq_error_iff.mp failed with early | ⟨a, v, -, late⟩
  · exact first w e w' early
  · exact second a v e w' late

theorem mapM {items : List γ} {f : γ → Task (StateM World) α} (each : ∀ item, (f item).FailsOnly kind) :
    (items.mapM f).FailsOnly kind := by
  induction items with
  | nil => exact pure _
  | cons item rest ih =>
      rw [List.mapM_cons]
      exact (each item).bind fun _ => ih.bind fun _ => pure _

theorem forM {items : List γ} {f : γ → Task (StateM World) PUnit}
    (each : ∀ item, (f item).FailsOnly kind) : (items.forM f).FailsOnly kind := by
  induction items with
  | nil => exact pure _
  | cons item rest ih => exact (each item).bind fun _ => ih

end FailsOnly

end SpecTest.Task
