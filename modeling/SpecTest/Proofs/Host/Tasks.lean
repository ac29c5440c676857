import SpecTest.Host
import SpecTest.Proofs.Data.Success

/-!
Tasks on a system kept as a value: what they give, and which of them leave the files alone.
-/

namespace SpecTest.Task

variable {α β γ : Type} {w w' : World}

def on (x : Task (StateM World) α) (w : World) : Except Failure α × World := x.run.run w

section Running

theorem on_bind (x : Task (StateM World) α) (next : α → Task (StateM World) β) (w : World) :
    (x >>= next).on w = match x.on w with
      | (.ok a, v) => (next a).on v
      | (.error e, v) => (.error e, v) := by
  change (ExceptT.bindCont next (x.on w).1).run (x.on w).2 = _
  rcases x.on w with ⟨result, v⟩
  cases result <;> rfl

theorem on_of_fst {x : Task (StateM World) α} {a : α} (gives : (x.on w).1 = .ok a) :
    x.on w = (.ok a, (x.on w).2) := Prod.ext gives rfl

/-- Two tasks succeed where the first does and the second does on what the first leaves. -/
theorem bind_on_eq_ok_iff {x : Task (StateM World) α} {next : α → Task (StateM World) β} {b : β} :
    (x >>= next).on w = (.ok b, w') ↔
      ∃ a v, x.on w = (.ok a, v) ∧ (next a).on v = (.ok b, w') := by
  rw [on_bind]
  rcases x.on w with ⟨result, v⟩
  cases result with
  | error e => simp
  | ok a =>
      constructor
      · intro done
        exact ⟨a, v, rfl, done⟩
      · intro steps
        obtain ⟨_, _, first, done⟩ := steps
        cases first
        exact done

@[simp] theorem on_ofExcept (e : Except Failure α) (w : World) : (ofExcept e).on w = (e, w) := rfl

@[simp] theorem on_liftM (op : StateM World α) (w : World) :
    (liftM op : Task (StateM World) α).on w = (.ok (op.run w).1, (op.run w).2) := rfl

theorem on_ofHost (op : StateM World (Except IoError α)) (w : World) :
    (ofHost op).on w = ((op.run w).1.mapError .io, (op.run w).2) := by
  rw [ofHost, on_bind, on_liftM]
  dsimp only
  cases (op.run w).1 <;> rfl

theorem ofHost_on_eq_ok_iff {op : StateM World (Except IoError α)} {a : α} :
    (ofHost op).on w = (.ok a, w') ↔ op.run w = (.ok a, w') := by
  rw [on_ofHost]
  rcases op.run w with ⟨result, v⟩
  cases result with
  | error e =>
      constructor
      · intro done
        cases done
      · intro done
        cases done
  | ok a =>
      constructor
      · intro done
        cases done
        rfl
      · intro done
        cases done
        rfl

theorem onDisk_run_eq_ok {f : Disk → Except IoError α × Disk} {a : α}
    (done : (World.onDisk f).run w = (.ok a, w')) : f w.disk = (.ok a, w'.disk) := by
  obtain ⟨gives, rfl⟩ := Prod.mk.inj done
  exact Prod.ext gives rfl

theorem onDisk?_run_eq_ok {f : Disk → Except IoError Disk}
    (done : (World.onDisk? f).run w = (.ok (), w')) : f w.disk = .ok w'.disk := by
  have done := onDisk_run_eq_ok done
  split at done
  · rename_i found
    cases done
    exact found
  · cases done

end Running

def KeepsDisk (x : Task (StateM World) α) : Prop := ∀ w, (x.on w).2.disk = w.disk

namespace KeepsDisk

theorem pure (a : α) : KeepsDisk (Pure.pure a) := fun _ => rfl

theorem throw (e : Failure) : KeepsDisk (MonadExcept.throw e : Task (StateM World) α) := fun _ => rfl

theorem ofExcept (e : Except Failure α) : KeepsDisk (Task.ofExcept e) := fun _ => rfl

theorem bind {x : Task (StateM World) α} {next : α → Task (StateM World) β} (first : x.KeepsDisk)
    (second : ∀ a, (next a).KeepsDisk) : (x >>= next).KeepsDisk := by
  intro w
  have kept := first w
  rw [on_bind]
  rcases run : x.on w with ⟨result, v⟩
  rw [run] at kept
  cases result with
  | error e => exact kept
  | ok a => exact (second a v).trans kept

theorem log (level : LogLevel) (message : String) :
    KeepsDisk (Task.log level message : Task (StateM World) Unit) := fun _ => rfl

theorem notice (message : String) :
    KeepsDisk (liftM (Host.notice message : StateM World Unit) : Task (StateM World) Unit) :=
  fun _ => rfl

theorem now : KeepsDisk (liftM (Host.now : StateM World Timestamp) : Task (StateM World) Timestamp) :=
  fun _ => rfl

theorem callMillis :
    KeepsDisk (liftM (Host.callMillis : StateM World (Nat → UInt64)) : Task (StateM World) (Nat → UInt64)) :=
  fun _ => rfl

theorem readText (p : Path) :
    KeepsDisk (Task.ofHost (Host.readText p) : Task (StateM World) String) := by
  intro w
  rw [on_ofHost]
  rfl

theorem forM {items : List γ} {f : γ → Task (StateM World) PUnit} (each : ∀ item, (f item).KeepsDisk) :
    (items.forM f).KeepsDisk := by
  induction items with
  | nil => exact pure _
  | cons item rest ih => exact (each item).bind fun _ => ih

theorem mapM {items : List γ} {f : γ → Task (StateM World) α} (each : ∀ item, (f item).KeepsDisk) :
    (items.mapM f).KeepsDisk := by
  induction items with
  | nil => exact pure _
  | cons item rest ih =>
      rw [List.mapM_cons]
      exact (each item).bind fun _ => ih.bind fun _ => pure _

theorem logAll (events : List LogEvent) :
    KeepsDisk (Task.logAll events : Task (StateM World) Unit) := forM fun _ _ => rfl

theorem disk_eq {x : Task (StateM World) α} {result : Except Failure α} (keeps : x.KeepsDisk)
    (ran : x.on w = (result, w')) : w'.disk = w.disk := by
  have kept := keeps w
  rwa [ran] at kept

end KeepsDisk

end SpecTest.Task
