import SpecTest.Data.Sum
import SpecTest.Expectation
import SpecTest.Failure
import SpecTest.Suite

/-!
Which modules hold tests and which of their operations are tests.
-/

namespace SpecTest

structure ModuleInfo where
  name : String
  files : List Path := []
  operations : List OperationInfo := []
deriving DecidableEq, Repr, Inhabited

namespace ModuleInfo

/-- Do all files of the module lie under the directory, if one is given? -/
def liesUnder (m : ModuleInfo) (dir : Option Path) : Bool :=
  match dir with
  | some d => m.files.all (·.startsWith d)
  | none => true

end ModuleInfo

/-- Decides what is a test.  `isTestName` judges the names of operations. -/
structure Selector where
  moduleStart : String := "Test"
  isTestName : String → Bool := fun name => SpecTest.Text.startsWith "Test".toList name.toList
  sourceDir : Option Path := none

namespace Selector

def withSourceDir (s : Selector) (dir : Path) : Selector :=
  { s with sourceDir := some dir.normalize }

def withPattern (s : Selector) (pattern : String) : Except Failure Selector :=
  match Pattern.parse pattern with
  | .ok p => .ok { s with isTestName := p.isMatch }
  | .error reason => .error (.invalidPattern pattern reason)

def isTestModule (s : Selector) (m : ModuleInfo) : Bool :=
  SpecTest.Text.startsWith s.moduleStart.toList m.name.toList && m.liesUnder s.sourceDir

/-- Is the operation a test? -/
def isTest (s : Selector) (o : OperationInfo) : Bool := o.arity == 0 && s.isTestName o.name

def suite (s : Selector) (m : ModuleInfo) : Suite :=
  ⟨m.name, (m.operations.filter s.isTest).map (·.name)⟩

def discover (s : Selector) (modules : List ModuleInfo) : List Suite :=
  (modules.filter s.isTestModule).map s.suite

end Selector

namespace Suite

def listing (s : Suite) : String :=
  s.moduleName ++ "\n" ++ String.join (s.tests.map fun test =>
    "  " ++ test ++ " [" ++ (Expectation.ofName test).description ++ "]\n")

def listAll (suites : List Suite) : String :=
  String.join (suites.map listing) ++
    toString (Data.sumOf (suites.map (·.tests.length))) ++ " tests in " ++ toString suites.length ++
    " modules\n"

end Suite

end SpecTest
