import SpecTest.Coverage.Table
import SpecTest.Document.Format
import SpecTest.Settings
import SpecTest.Transcript
import SpecTest.Verbosity

/-!
The values that documents hold, read in any format.
-/

namespace SpecTest.Document

open SpecTest.Coverage SpecTest.Data

variable {m : Type → Type} {ν : Type} [Monad m] (F : Format m ν)

def readPath (v : ν) : m Path := Path.mk <$> F.text v

def readCount (v : ν) : m Nat := F.unsigned 64 v

def readUInt64 (v : ν) : m UInt64 := Nat.toUInt64 <$> F.unsigned 64 v

def readCode (v : ν) : m Int64 := Int64.ofInt <$> F.signed 64 v

def readCodeSet (v : ν) : m CodeSet := Ascending.ofList <$> F.list (readCode F) v

def readLineNumber (v : ν) : m UInt32 := Nat.toUInt32 <$> F.unsigned 32 v

def locationNames : List String := ["start_line", "start_col", "end_line", "end_col"]

def readLocationFields (fs : Fields ν) (readNumber : ν → m UInt32) : m Location := do
  return Location.ofNumbers
    (← F.required fs "start_line" readNumber) (← F.required fs "start_col" readNumber)
    (← F.required fs "end_line" readNumber) (← F.required fs "end_col" readNumber)

def readLocation (v : ν) : m Location := do
  readLocationFields F (← F.fields locationNames v) (readLineNumber F)

/-- A hit holds the numbers of its location beside its own count, so its other fields are read
before it is known which of them count. -/
def readHit (v : ν) : m Hit := do
  let entries ← F.entries v
  let own := entries.filter fun e => e.1 == "hits"
  let rest := entries.filter fun e => e.1 != "hits"
  rest.forM fun e => if locationNames.contains e.1 then pure () else F.content e.2
  match pickFields ["hits"] own, pickFields locationNames rest with
  | some count, some found =>
    let location ← readLocationFields F ⟨false, found⟩ fun v =>
      Nat.toUInt32 <$> F.contentUnsigned 32 v
    return ⟨location, ← (Fields.mk false count).withDefault "hits" 0 (readUInt64 F)⟩
  | _, _ => F.refuse

def readViolationFields (fs : Fields ν) (message : Fields ν → m String) : m Violation := do
  return ⟨← F.required fs "code" (readCode F), ← message fs⟩

def readViolation (v : ν) : m Violation := do
  readViolationFields F (← F.fields ["code", "message"] v) fun fs => F.required fs "message" F.text

def readRaised (v : ν) : m Violation := do
  readViolationFields F (← F.fields ["code", "message"] v) fun fs =>
    fs.withDefault "message" "" F.text

/-- An operation; it has no parameters unless their number is given. -/
def readOperation (v : ν) : m OperationInfo := do
  let fs ← F.fields ["name", "arity"] v
  return ⟨← F.required fs "name" F.text, ← fs.withDefault "arity" 0 (readUInt64 F)⟩

def readModule (v : ν) : m ModuleInfo := do
  let fs ← F.fields ["name", "files", "operations"] v
  return ⟨← F.required fs "name" F.text, ← fs.withDefault "files" [] (F.list (readPath F)),
    ← fs.withDefault "operations" [] (F.list (readOperation F))⟩

def readSuite (v : ν) : m Suite := do
  let fs ← F.fields ["module_name", "test_names"] v
  return ⟨← F.required fs "module_name" F.text, ← F.required fs "test_names" (F.list F.text)⟩

def readVerdict (v : ν) : m Verdict :=
  F.named [("Pass", .pass), ("Fail", .fail), ("Error", .error)] v

def readTestResult (v : ν) : m TestResult := do
  let fs ← F.fields ["test_name", "duration_millis", "verdict", "message"] v
  return ⟨← F.required fs "test_name" F.text, ← F.required fs "duration_millis" (readUInt64 F),
    ← F.required fs "verdict" (readVerdict F), ← F.optionField fs "message" F.text⟩

def readTimestamp (v : ν) : m Timestamp := do
  match Timestamp.parse? (← F.text v) with
  | some t => pure t
  | none => F.refuse

def readSuiteResult (v : ν) : m SuiteResult := do
  let fs ← F.fields ["module_name", "timestamp", "results"] v
  return ⟨← F.required fs "module_name" F.text, ← F.required fs "timestamp" (readTimestamp F),
    ← F.required fs "results" (F.list (readTestResult F))⟩

def readExpectation (v : ν) : m Expectation :=
  F.named [("Success", .success), ("ExpectPreconditionFailure", .preconditionFailure),
    ("ExpectPostconditionFailure", .postconditionFailure),
    ("ExpectInvariantFailure", .invariantFailure)] v

def readCategory (v : ν) : m ViolationCategory :=
  F.named [("Precondition", .precondition), ("Postcondition", .postcondition),
    ("Invariant", .invariant), ("Unrecognized", .unrecognized)] v

def readCodes (v : ν) : m CodesLayer := do
  let fs ← F.fields ["precondition", "postcondition", "invariant"] v
  return ⟨← fs.given? "precondition" (readCodeSet F), ← fs.given? "postcondition" (readCodeSet F),
    ← fs.given? "invariant" (readCodeSet F)⟩

/-- The outcome of a case by its name and what it holds; `plain` reads what a return holds. -/
def readOutcomeCase (plain : ν → m Unit) (case : String × Option ν) : m Outcome := do
  match case with
  | ("return", none) => pure .returned
  | ("return", some body) => plain body; pure .returned
  | ("violation", some body) => .violated <$> readRaised F body
  | _ => F.refuse

def readOutcome (v : ν) : m Outcome := do readOutcomeCase F F.unit (← F.choice v)

/-- The outcome of an operation, where a return is only a name. -/
def readScriptedOutcome (v : ν) : m Outcome := do
  readOutcomeCase F (fun _ => F.refuse) (← F.singleton v)

def readScriptedOperation (v : ν) : m ScriptedOperation := do
  let fs ← F.fields ["name", "arity", "outcome"] v
  return ⟨← F.required fs "name" F.text, ← fs.withDefault "arity" 0 (readUInt64 F),
    ← fs.withDefault "outcome" .returned (readScriptedOutcome F)⟩

def readScriptedModule (v : ν) : m ScriptedModule := do
  let fs ← F.fields ["name", "files", "operations"] v
  return ⟨← F.required fs "name" F.text, ← fs.withDefault "files" [] (F.list (readPath F)),
    ← fs.withDefault "operations" [] (F.list (readScriptedOperation F))⟩

def readFileHits (v : ν) : m FileHits := do
  let fs ← F.fields ["file", "text", "locations"] v
  return ⟨← F.required fs "file" (readPath F), ← fs.withDefault "text" none (F.option F.text),
    ← fs.withDefault "locations" [] (F.list (readHit F))⟩

def readDialect (v : ν) : m Dialect :=
  F.named [("vdmsl", .vdmsl), ("vdmpp", .vdmpp), ("vdmrt", .vdmrt)] v

def readTranscript (v : ν) : m Transcript := do
  let fs ← F.fields ["dialect", "parse_errors", "type_errors", "modules", "coverage"] v
  return ⟨← fs.withDefault "dialect" .vdmsl (readDialect F),
    ← fs.withDefault "parse_errors" [] (F.list F.text),
    ← fs.withDefault "type_errors" [] (F.list F.text),
    ← fs.withDefault "modules" [] (F.list (readScriptedModule F)),
    ← fs.withDefault "coverage" [] (F.list (readFileHits F))⟩

def readGeneration (v : ν) : m LaunchGeneration :=
  F.named [("all", .all), ("failing", .failing), ("none", .none)] v

def settingNames : List String :=
  ["module_prefix", "operation_pattern", "test_source_dir", "coverage_source_dir",
    "record_coverage", "report_dir", "coverage_dir", "launch_dir", "launch_generation",
    "launch_project", "violation_codes"]

def readSettings (v : ν) : m SettingsLayer := do
  let fs ← F.fields settingNames v
  return {
    moduleStart := ← fs.given? "module_prefix" F.text
    operationPattern := ← fs.given? "operation_pattern" F.text
    testSourceDir := ← fs.given? "test_source_dir" (F.option (readPath F))
    coverageSourceDir := ← fs.given? "coverage_source_dir" (F.option (readPath F))
    recordCoverage := ← fs.given? "record_coverage" F.bool
    reportDir := ← fs.given? "report_dir" (readPath F)
    coverageDir := ← fs.given? "coverage_dir" (readPath F)
    launchDir := ← fs.given? "launch_dir" (F.option (readPath F))
    launchGeneration := ← fs.given? "launch_generation" (readGeneration F)
    launchProject := ← fs.given? "launch_project" (F.option F.text)
    violationCodes := ← fs.withDefault "violation_codes" {} (readCodes F) }

def readSummary (v : ν) : m RunSummary := do
  let fs ← F.fields ["tests", "failures", "errors"] v
  return ⟨← F.required fs "tests" (readCount F), ← F.required fs "failures" (readCount F),
    ← F.required fs "errors" (readCount F)⟩

def readFileStats (v : ν) : m FileStats := do
  let fs ← F.fields ["file_name", "page_name", "covered", "total"] v
  return ⟨← F.required fs "file_name" F.text, ← F.required fs "page_name" F.text,
    ← F.required fs "covered" (readCount F), ← F.required fs "total" (readCount F)⟩

def readCoverageSummary (v : ν) : m CoverageSummary := do
  let fs ← F.fields ["files", "covered", "total"] v
  return ⟨← F.required fs "files" (F.list (readFileStats F)),
    ← F.required fs "covered" (readCount F), ← F.required fs "total" (readCount F)⟩

def readOutputSettings (v : ν) : m OutputSettings := do
  let fs ← F.fields ["verbosity", "color"] v
  let verbosity ← F.required fs "verbosity" <| F.named
    [("Quiet", .quiet), ("Normal", .normal), ("Verbose", .verbose), ("Debug", .debug)]
  let color ← F.required fs "color" <| F.named
    [("Always", .always), ("Auto", .auto), ("Never", .never)]
  return ⟨verbosity, color⟩

end SpecTest.Document
