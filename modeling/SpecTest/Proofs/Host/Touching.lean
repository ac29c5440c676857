import SpecTest.Proofs.Disk.Touching
import SpecTest.Proofs.Host.Tasks

/-!
Which files tasks may touch, whatever the system is like and however they end.
-/

namespace SpecTest.Task

variable {α β : Type} {dir : Path} {paths : Path → Prop} {x : Task (StateM World) α}

def Touches (dir : Path) (paths : Path → Prop) (x : Task (StateM World) α) : Prop :=
  ∀ w, Disk.Touches dir paths w.disk (x.on w).2.disk

namespace Touches

theorem of_keepsDisk (keeps : x.KeepsDisk) : Touches dir paths x := by
  intro w
  rw [keeps w]
  exact .refl _

/-- The second task counts only for what the first one gives. -/
theorem bind {next : α → Task (StateM World) β} (first : Touches dir paths x)
    (second : ∀ w a v, x.on w = (.ok a, v) → Touches dir paths (next a)) :
    Touches dir paths (x >>= next) := by
  intro w
  have before := first w
  rw [on_bind]
  rcases run : x.on w with ⟨result, v⟩
  rw [run] at before
  cases result with
  | error e => exact before
  | ok a => exact before.trans (second w a v run v)

theorem onDisk {f : Disk → Except IoError α × Disk} (each : ∀ d, Disk.Touches dir paths d (f d).2) :
    Touches dir paths (ofHost (World.onDisk f)) := by
  intro w
  rw [on_ofHost]
  exact each w.disk

theorem onDisk? {f : Disk → Except IoError Disk}
    (each : ∀ d d', f d = .ok d' → Disk.Touches dir paths d d') :
    Touches dir paths (ofHost (World.onDisk? f)) := by
  rw [World.onDisk?]
  refine onDisk fun d => ?_
  split
  · rename_i written
    exact each d _ written
  · exact .refl d

theorem removeTree : Touches dir paths (ofHost (Host.removeTree dir)) :=
  onDisk fun d => Disk.removeTree_touches d dir

theorem createTree (p : Path) : Touches dir paths (ofHost (Host.createTree p)) :=
  onDisk fun d => Disk.createTreeFrom_touches _ d p

theorem writeText {p : Path} (named : paths p) (text : String) :
    Touches dir paths (ofHost (Host.writeText p text)) :=
  onDisk? fun _ _ written => .of_writeText written named

end Touches

end SpecTest.Task
