import SpecTest.Proofs.Host.Tasks

/-!
Tasks that read: what they give depends on the files alone, which they leave as they were.
-/

namespace SpecTest.Task

variable {α β : Type} {w v w' : World}

theorem logAll_on (events : List LogEvent) (w : World) :
    (logAll events : Task (StateM World) Unit).on w =
      (.ok (), { w with logged := events.reverse ++ w.logged }) := by
  induction events generalizing w with
  | nil => rfl
  | cons event events ih =>
      have first : (logAll (event :: events) : Task (StateM World) Unit).on w =
          (logAll events : Task (StateM World) Unit).on { w with logged := event :: w.logged } := rfl
      rw [first, ih, List.reverse_cons, List.append_assoc]
      rfl

structure Reads (x : Task (StateM World) α) : Prop where
  keeps : KeepsDisk x
  gives : ∀ w v : World, w.disk = v.disk → (x.on w).1 = (x.on v).1

namespace Reads

theorem pure (a : α) : Reads (Pure.pure a) := ⟨.pure a, fun _ _ _ => rfl⟩

theorem throw (e : Failure) : Reads (MonadExcept.throw e : Task (StateM World) α) :=
  ⟨.throw e, fun _ _ _ => rfl⟩

theorem log (level : LogLevel) (message : String) :
    Reads (Task.log level message : Task (StateM World) Unit) := ⟨.log level message, fun _ _ _ => rfl⟩

theorem readText (p : Path) : Reads (Task.ofHost (Host.readText p) : Task (StateM World) String) where
  keeps := .readText p
  gives w v same := by
    have read (u : World) : ((Host.readText p : StateM World _).run u).1 = u.disk.readText p := rfl
    rw [on_ofHost, on_ofHost, read, read, same]

theorem bind {x : Task (StateM World) α} {next : α → Task (StateM World) β} (first : x.Reads)
    (second : ∀ a, (next a).Reads) : (x >>= next).Reads where
  keeps := first.keeps.bind fun a => (second a).keeps
  gives w v same := by
    have gives := first.gives w v same
    have kept := (first.keeps w).trans (same.trans (first.keeps v).symm)
    rw [on_bind, on_bind]
    rcases ran : x.on w with ⟨result, w'⟩
    rcases ranToo : x.on v with ⟨other, v'⟩
    rw [ran, ranToo] at gives kept
    cases gives
    cases result with
    | error e => rfl
    | ok a => exact (second a).gives w' v' kept

/-- What was read once is read again where the files are the same. -/
theorem on_eq {x : Task (StateM World) α} {result : Except Failure α} (reads : x.Reads)
    (same : w.disk = v.disk) (ran : x.on w = (result, w')) : (x.on v).1 = result := by
  rw [← reads.gives w v same, ran]

end Reads

end SpecTest.Task
