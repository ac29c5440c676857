import SpecTest.Coverage.Index
import SpecTest.Coverage.Page
import SpecTest.Report.Files
import SpecTest.Selector

/-!
The coverage of the modules of a specification: collected, shown as pages, and written.
-/

namespace SpecTest.Coverage

open SpecTest.Report

variable {m : Type → Type} [Monad m] [Host m]

structure Source (m : Type → Type) where
  text : Path → Task m String
  hits : Path → Task m (List Hit)

structure Recorder where
  sourceDir : Option Path := none
  outputDir : Path
deriving DecidableEq, Repr

namespace Recorder

def withSourceDir (r : Recorder) (dir : Path) : Recorder :=
  { r with sourceDir := some dir.normalize }

def includes (r : Recorder) (info : ModuleInfo) : Bool := info.liesUnder r.sourceDir

def files (r : Recorder) (modules : List ModuleInfo) : List (String × Path) :=
  (modules.filter r.includes).flatMap fun info => info.files.map fun f => (info.name, f)

def collect (r : Recorder) (source : Source m) (modules : List ModuleInfo) :
    Task m (List FileCoverage) :=
  (r.files modules).mapM fun (name, file) => do
    let blank := FileCoverage.blank file name (← source.text file)
    return blank.withHits (← source.hits file)

def pages (files : List FileCoverage) : Except Failure (List (String × String)) :=
  files.mapM fun f => return (f.pageName, ← f.page)

/-- Collects the coverage and writes its pages into a directory that is made anew.  Nothing is
written unless all pages can be shown, and nothing but the empty directory where there is no
location. -/
def record (r : Recorder) (source : Source m) (modules : List ModuleInfo) :
    Task m (Option CoverageSummary) := do
  let files ← r.collect source modules
  let summary := CoverageSummary.ofFiles files
  let pages := if summary.isEmpty then .ok [] else pages files
  recreate r.outputDir
  let pages ← Task.ofExcept pages
  if summary.isEmpty then
    Task.log .debug "no coverage locations recorded"
    return none
  Task.log .info ("COVERAGE -- " ++ percentText summary.percent)
  let _ ← writeFiles r.outputDir (pages ++ [(indexFileName, summary.index)])
  return some summary

end Recorder

end SpecTest.Coverage
