import SpecTest.Coverage.Table
import SpecTest.Json.Value
import SpecTest.Settings
import SpecTest.Transcript
import SpecTest.Verbosity

/-!
The values that documents hold, as JSON values.
-/

namespace SpecTest

open SpecTest.Json

def Location.fields (l : Location) : List (String × Value) :=
  [("start_line", .ofNat l.start.line.toNat), ("start_col", .ofNat l.start.col.toNat),
    ("end_line", .ofNat l.finish.line.toNat), ("end_col", .ofNat l.finish.col.toNat)]

def Location.json (l : Location) : Value := .ofFields l.fields

/-- A hit as an object, with the numbers of its location beside its count. -/
def Hit.json (h : Hit) : Value :=
  .ofFields (h.location.fields ++ [("hits", .ofNat h.count.toNat)])

def CodeSet.json (s : CodeSet) : Value := .ofList (fun c : Int64 => .ofInt c.toInt) s.toList

def Path.json (p : Path) : Value := .ofString p.text

def Violation.json (v : Violation) : Value :=
  .ofFields [("code", .ofInt v.code.toInt), ("message", .ofString v.message)]

def OperationInfo.json (o : OperationInfo) : Value :=
  .ofFields [("name", .ofString o.name), ("arity", .ofNat o.arity.toNat)]

def ModuleInfo.json (m : ModuleInfo) : Value :=
  .ofFields [("name", .ofString m.name), ("files", .ofList Path.json m.files),
    ("operations", .ofList OperationInfo.json m.operations)]

def Suite.json (s : Suite) : Value :=
  .ofFields [("module_name", .ofString s.moduleName), ("test_names", .ofList .ofString s.tests)]

def Verdict.json : Verdict → Value
  | pass => .ofString "Pass"
  | fail => .ofString "Fail"
  | error => .ofString "Error"

def TestResult.json (r : TestResult) : Value :=
  .ofFields [("test_name", .ofString r.testName), ("duration_millis", .ofNat r.millis.toNat),
    ("verdict", r.verdict.json), ("message", .ofOption .ofString r.message)]

def SuiteResult.json (s : SuiteResult) : Value :=
  .ofFields [("module_name", .ofString s.moduleName),
    ("timestamp", .ofString s.timestamp.isoText), ("results", .ofList TestResult.json s.results)]

def Expectation.json : Expectation → Value
  | success => .ofString "Success"
  | preconditionFailure => .ofString "ExpectPreconditionFailure"
  | postconditionFailure => .ofString "ExpectPostconditionFailure"
  | invariantFailure => .ofString "ExpectInvariantFailure"

def ViolationCategory.json : ViolationCategory → Value
  | precondition => .ofString "Precondition"
  | postcondition => .ofString "Postcondition"
  | invariant => .ofString "Invariant"
  | unrecognized => .ofString "Unrecognized"

def ViolationCodes.json (c : ViolationCodes) : Value :=
  .ofFields [("precondition", c.precondition.json), ("postcondition", c.postcondition.json),
    ("invariant", c.invariant.json)]

/-- An outcome: a return as its name, a violation as an object that holds it. -/
def Outcome.json : Outcome → Value
  | returned => .ofString "return"
  | violated v => .ofFields [("violation", v.json)]

def ScriptedOperation.json (o : ScriptedOperation) : Value :=
  .ofFields [("name", .ofString o.name), ("arity", .ofNat o.arity.toNat),
    ("outcome", o.outcome.json)]

def ScriptedModule.json (m : ScriptedModule) : Value :=
  .ofFields [("name", .ofString m.name), ("files", .ofList Path.json m.files),
    ("operations", .ofList ScriptedOperation.json m.operations)]

def FileHits.json (f : FileHits) : Value :=
  .ofFields [("file", f.file.json), ("text", .ofOption .ofString f.text),
    ("locations", .ofList Hit.json f.hits)]

def Dialect.json (d : Dialect) : Value := .ofString d.name

def Transcript.json (t : Transcript) : Value :=
  .ofFields [("dialect", t.dialect.json), ("parse_errors", .ofList .ofString t.parseErrors),
    ("type_errors", .ofList .ofString t.typeErrors),
    ("modules", .ofList ScriptedModule.json t.modules),
    ("coverage", .ofList FileHits.json t.coverage)]

def LaunchGeneration.json (g : LaunchGeneration) : Value := .ofString g.name

def Settings.json (s : Settings) : Value :=
  .ofFields [
    ("module_prefix", .ofString s.moduleStart),
    ("operation_pattern", .ofString s.operationPattern),
    ("test_source_dir", .ofOption Path.json s.testSourceDir),
    ("coverage_source_dir", .ofOption Path.json s.coverageSourceDir),
    ("record_coverage", .bool s.recordCoverage),
    ("report_dir", s.reportDir.json),
    ("coverage_dir", s.coverageDir.json),
    ("launch_dir", .ofOption Path.json s.launchDir),
    ("launch_generation", s.launchGeneration.json),
    ("launch_project", .ofOption .ofString s.launchProject),
    ("violation_codes", s.violationCodes.json)]

def RunSummary.json (s : RunSummary) : Value :=
  .ofFields [("tests", .ofNat s.tests), ("failures", .ofNat s.failures),
    ("errors", .ofNat s.errors)]

def Coverage.FileStats.json (s : Coverage.FileStats) : Value :=
  .ofFields [("file_name", .ofString s.fileName), ("page_name", .ofString s.pageName),
    ("covered", .ofNat s.covered), ("total", .ofNat s.total)]

def Coverage.CoverageSummary.json (s : Coverage.CoverageSummary) : Value :=
  .ofFields [("files", .ofList Coverage.FileStats.json s.files), ("covered", .ofNat s.covered),
    ("total", .ofNat s.total)]

def Verbosity.json : Verbosity → Value
  | quiet => .ofString "Quiet"
  | normal => .ofString "Normal"
  | verbose => .ofString "Verbose"
  | debug => .ofString "Debug"

def ColorChoice.json : ColorChoice → Value
  | always => .ofString "Always"
  | auto => .ofString "Auto"
  | never => .ofString "Never"

def OutputSettings.json (s : OutputSettings) : Value :=
  .ofFields [("verbosity", s.verbosity.json), ("color", s.color.json)]

end SpecTest
