import SpecTest.Failure
import SpecTest.Markup.Escape
import SpecTest.Suite
import SpecTest.Unicode.Case

/-!
Launch descriptors, by which a development environment runs one test again.
-/

namespace SpecTest

open SpecTest.Markup SpecTest.Unicode

inductive LaunchGeneration where
  | all
  | failing
  | none
deriving DecidableEq, Repr, Inhabited

namespace LaunchGeneration

def name : LaunchGeneration → String
  | all => "all"
  | failing => "failing"
  | none => "none"

def named? (s : String) : Option LaunchGeneration :=
  [all, failing, none].find? fun g => g.name == s

def ofText (s : String) : Except Failure LaunchGeneration :=
  let lower := lowercaseText s
  match named? lower with
  | some g => .ok g
  | .none => .error (.settings (.unknownGeneration lower))

def selects (g : LaunchGeneration) (passed : Bool) : Bool :=
  match g with
  | all => true
  | failing => !passed
  | none => false

/-- The tests that get a descriptor, with their modules, in the order of the run. -/
def selected (g : LaunchGeneration) (results : List SuiteResult) : List (String × String) :=
  results.flatMap fun s =>
    (s.results.filter fun r => g.selects r.verdict.isPass).map fun r => (s.moduleName, r.testName)

end LaunchGeneration

namespace Report

def launchType : String := "org.overture.ide.vdmsl.debug.launchConfigurationType"

def stringSetting (key value : String) : String :=
  "  <stringAttribute" ++ attr "key" key ++ attr "value" value ++ "/>\n"

def booleanSetting (key : String) : String :=
  "  <booleanAttribute" ++ attr "key" key ++ attr "value" "true" ++ "/>\n"

def launch (moduleName testName project : String) : String :=
  declaration ++ "<launchConfiguration" ++ attr "type" launchType ++ ">\n" ++
  stringSetting "vdm_launch_config_default" moduleName ++
  booleanSetting "vdm_launch_config_dtc_checks" ++
  stringSetting "vdm_launch_config_expression" (moduleName ++ "`" ++ testName ++ "()") ++
  stringSetting "vdm_launch_config_project" project ++
  stringSetting "vdm_launch_config_method" (testName ++ "()") ++
  stringSetting "vdm_launch_config_module" moduleName ++
  booleanSetting "vdm_launch_config_inv_checks" ++
  booleanSetting "vdm_launch_config_pre_checks" ++
  booleanSetting "vdm_launch_config_post_checks" ++
  booleanSetting "vdm_launch_config_measure_checks" ++
  "</launchConfiguration>\n"

def launchFileName (moduleName testName : String) : String :=
  moduleName ++ "`" ++ testName ++ ".launch"

end Report

end SpecTest
