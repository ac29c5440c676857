import SpecTest.Host
import SpecTest.Report.Junit
import SpecTest.Report.Launch

/-!
Directories of reports, which are made anew on every run.
-/

namespace SpecTest.Report

variable {m : Type → Type} [Monad m] [Host m]

def recreate (dir : Path) : Task m Unit := do
  if ← (Host.isThere dir : m Bool) then
    Task.ofHost (Host.removeTree dir)
  Task.ofHost (Host.createTree dir)

def writeFiles (dir : Path) : List (String × String) → Task m (List Path)
  | [] => return []
  | (name, text) :: rest => do
    Task.ofHost (Host.writeText (dir.child name) text)
    return dir.child name :: (← writeFiles dir rest)

def writeJunitFrom (dir : Path) (hostname : String) : List SuiteResult → Task m (List Path)
  | [] => return []
  | s :: rest => do
    let file := dir.child (junitFileName s.moduleName)
    let document ← Task.ofExcept (junit s hostname)
    Task.ofHost (Host.writeText file document)
    Task.log .debug ("wrote " ++ file.text)
    return file :: (← writeJunitFrom dir hostname rest)

/-- Makes the directory of the documents anew and writes one for each suite. -/
def writeJunit (dir : Path) (results : List SuiteResult) (hostname : String) :
    Task m (List Path) := do
  recreate dir
  writeJunitFrom dir hostname results

def launchFiles (g : LaunchGeneration) (project : String) (results : List SuiteResult) :
    List (String × String) :=
  (g.selected results).map fun t => (launchFileName t.1 t.2, launch t.1 t.2 project)

def noLaunchDir : SettingsError :=
  .missing "asked to generate launch files, but no launch directory specified"

def noLaunchProject : SettingsError :=
  .missing "asked to generate launch files, but no launch project specified"

/-- Makes the directory of the launch descriptors anew and writes those of the selected tests.  The
directory is made anew before a missing project is refused. -/
def writeLaunch (dir : Option Path) (g : LaunchGeneration) (project : Option String)
    (results : List SuiteResult) : Task m (List Path) := do
  match dir with
  | none => if g = .none then return [] else throw (.settings noLaunchDir)
  | some dir =>
    recreate dir
    if g = .none then return []
    match project with
    | none => throw (.settings noLaunchProject)
    | some project =>
      let written ← writeFiles dir (launchFiles g project results)
      Task.log .debug
        ("wrote " ++ toString written.length ++ " launch file(s) to " ++ dir.text)
      return written

end SpecTest.Report
