import SpecTest.Coverage.Percent
import SpecTest.Data.Sum
import SpecTest.Location
import SpecTest.Path

/-!
Which locations of a file were executed, and how many of them.
-/

namespace SpecTest.Coverage

open SpecTest.Data SpecTest.Number

structure FileCoverage where
  file : Path
  moduleName : String
  text : String
  hits : HitTable
deriving Inhabited

structure FileStats where
  fileName : String
  pageName : String
  covered : Nat
  total : Nat
deriving DecidableEq, Repr, Inhabited

structure CoverageSummary where
  files : List FileStats := []
  covered : Nat := 0
  total : Nat := 0
deriving DecidableEq, Repr, Inhabited

namespace FileCoverage

def blank (file : Path) (moduleName text : String) : FileCoverage :=
  ⟨file, moduleName, text, Ascending.empty⟩

/-- Adds hits; a later hit replaces an earlier one at its location. -/
def withHits (c : FileCoverage) (hits : List Hit) : FileCoverage :=
  { c with hits := hits.foldl Ascending.insert c.hits }

def covered (c : FileCoverage) : Nat := (c.hits.toList.filter (·.isCovered)).length

def total (c : FileCoverage) : Nat := c.hits.size

def pageName (c : FileCoverage) : String := c.moduleName ++ ".html"

def stats (c : FileCoverage) : FileStats := ⟨c.file.displayName, c.pageName, c.covered, c.total⟩

end FileCoverage

def FileStats.percent (s : FileStats) : Binary64 := Coverage.percent s.covered s.total

namespace CoverageSummary

def ofFiles (files : List FileCoverage) : CoverageSummary :=
  let rows := files.map (·.stats)
  ⟨rows, sumOf (rows.map (·.covered)), sumOf (rows.map (·.total))⟩

def percent (s : CoverageSummary) : Binary64 := Coverage.percent s.covered s.total

def isEmpty (s : CoverageSummary) : Bool := s.total == 0

end CoverageSummary

end SpecTest.Coverage
