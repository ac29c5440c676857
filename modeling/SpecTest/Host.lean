import SpecTest.Disk
import SpecTest.Log
import SpecTest.Timestamp

/-!
What the program asks of the system that it runs on, and a system kept as a value.
-/

namespace SpecTest

class Host (m : Type → Type) where
  readText : Path → m (Except IoError String)
  isThere : Path → m Bool
  removeTree : Path → m (Except IoError Unit)
  createTree : Path → m (Except IoError Unit)
  writeText : Path → String → m (Except IoError Unit)
  /-- The last name on the way to the working directory. -/
  workDirName : m (Option String)
  hostname : m String
  now : m Timestamp
  /-- The milliseconds that the calls of a run take, in their order. -/
  callMillis : m (Nat → UInt64)
  log : LogEvent → m Unit
  notice : String → m Unit

structure World where
  disk : Disk := {}
  hostname : String := "localhost"
  now : Timestamp := ⟨1970, 1, 1, 0, 0, 0, 0⟩
  callMillis : Nat → UInt64 := fun _ => 0
  logged : List LogEvent := []
  notices : List String := []
deriving Inhabited

namespace World

/-- An operation on the disk that gives what it did and the disk after it. -/
def onDisk (f : Disk → α × Disk) : StateM World α := fun w =>
  let (a, disk) := f w.disk
  (a, { w with disk })

/-- An operation that changes the disk only where it succeeds. -/
def onDisk? (f : Disk → Except IoError Disk) : StateM World (Except IoError Unit) :=
  onDisk fun d =>
    match f d with
    | .ok d => (.ok (), d)
    | .error e => (.error e, d)

end World

instance : Host (StateM World) where
  readText p := return (← get).disk.readText p
  isThere p := return (← get).disk.isThere p
  removeTree p := World.onDisk (·.removeTree p)
  createTree p := World.onDisk (·.createTree p)
  writeText p text := World.onDisk? (·.writeText p text)
  workDirName := return (← get).disk.workDir.getLast?
  hostname := return (← get).hostname
  now := return (← get).now
  callMillis := return (← get).callMillis
  log e := modify fun w => { w with logged := e :: w.logged }
  notice text := modify fun w => { w with notices := text :: w.notices }

abbrev Task (m : Type → Type) := ExceptT Failure m

namespace Task

variable {m : Type → Type} [Monad m] {α : Type}

/-- What an operation of the host gave, or its error as the failure of the task. -/
def ofHost (op : m (Except IoError α)) : Task m α := do
  match ← op with
  | .ok a => return a
  | .error e => throw (.io e)

def ofExcept (e : Except Failure α) : Task m α := ExceptT.mk (pure e)

def logAll [Host m] (events : List LogEvent) : Task m Unit :=
  events.forM fun e => (Host.log e : m Unit)

def log [Host m] (level : LogLevel) (message : String) : Task m Unit :=
  (Host.log ⟨level, message⟩ : m Unit)

end Task

end SpecTest
