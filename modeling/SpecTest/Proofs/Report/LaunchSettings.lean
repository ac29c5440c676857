import SpecTest.Proofs.Report.Conformance
import SpecTest.Proofs.Report.Descriptors

/-!
Reading a launch descriptor back.

A descriptor is one element around its settings, each an empty element with a key and a value.  The tests of
two descriptors are told apart although one of the values has a module and a test in one text: the module is
also there by itself.
-/

namespace SpecTest.Report

open SpecTest.Markup

inductive LaunchSetting where
  | string (key value : String)
  | boolean (key : String) (value : Bool)
deriving DecidableEq, Repr

/-- What a descriptor tells to the development environment. -/
structure LaunchRecord where
  type : String
  settings : List LaunchSetting
deriving DecidableEq, Repr

/-- The settings that run a test again: where it is, how it is called, and that all checks are made. -/
def launchRecord (moduleName testName project : String) : LaunchRecord where
  type := "org.overture.ide.vdmsl.debug.launchConfigurationType"
  settings := [
    .string "vdm_launch_config_default" moduleName,
    .boolean "vdm_launch_config_dtc_checks" true,
    .string "vdm_launch_config_expression" (moduleName ++ "\x60" ++ testName ++ "()"),
    .string "vdm_launch_config_project" project,
    .string "vdm_launch_config_method" (testName ++ "()"),
    .string "vdm_launch_config_module" moduleName,
    .boolean "vdm_launch_config_inv_checks" true,
    .boolean "vdm_launch_config_pre_checks" true,
    .boolean "vdm_launch_config_post_checks" true,
    .boolean "vdm_launch_config_measure_checks" true]

section Reader

def readBoolean? : String → Option Bool
  | "true" => some true
  | "false" => some false
  | _ => none

/-- Reads the element of a setting, which has a key and a value and nothing else. -/
def readSetting? : Tag → Option LaunchSetting
  | .opening "stringAttribute" [("key", key), ("value", value)] true => do
    return .string (← unescape? key) (← unescape? value)
  | .opening "booleanAttribute" [("key", key), ("value", value)] true => do
    return .boolean (← unescape? key) (← readBoolean? (← unescape? value))
  | _ => none

/-- Reads a descriptor: behind its declaration, one element that has settings in it and nothing else. -/
def readLaunch? (document : String) : Option LaunchRecord :=
  match tagsOf document.toList with
  | .instruction _ :: .opening "launchConfiguration" [("type", type)] false :: rest => do
    if rest.getLast? = some (.closing "launchConfiguration") then
      return ⟨← unescape? type, ← rest.dropLast.mapM readSetting?⟩
    else none
  | _ => none

end Reader

section Reading

def LaunchSetting.tag : LaunchSetting → Tag
  | string key value => stringTag key value
  | boolean key value => .opening "booleanAttribute" [("key", key), ("value", toString value)] true

theorem readBoolean?_toString (value : Bool) : readBoolean? (toString value) = some value := by
  cases value <;> rfl

theorem readSetting?_tag (setting : LaunchSetting) :
    readSetting? (setting.tag.mapValues escape) = some setting := by
  cases setting with
  | string key value => simp [LaunchSetting.tag, stringTag, Tag.mapValues, readSetting?, unescape?_escape]
  | boolean key value =>
      simp [LaunchSetting.tag, Tag.mapValues, readSetting?, unescape?_escape, readBoolean?_toString]

theorem mapM_readSetting? (settings : List LaunchSetting) :
    (settings.map (·.tag.mapValues escape)).mapM readSetting? = some settings := by
  induction settings with
  | nil => rfl
  | cons setting settings ih =>
      rw [List.map_cons, List.mapM_cons, readSetting?_tag, ih]
      rfl

theorem tagsOf_launch (moduleName testName project : String) :
    tagsOf (launch moduleName testName project).toList = declarationTag ::
      (launchPieces moduleName testName project).map (·.tag.mapValues escape) := by
  have written := launch_writtenAs moduleName testName project
  rw [written.text, start_eq, tagsOf_document written.lines written.named]

theorem readLaunch?_launch (moduleName testName project : String) :
    readLaunch? (launch moduleName testName project) = some (launchRecord moduleName testName project) := by
  have inside : (launchPieces moduleName testName project).map (·.tag.mapValues escape) =
      .opening "launchConfiguration" [("type", escape launchType)] false ::
        ((launchRecord moduleName testName project).settings.map (·.tag.mapValues escape) ++
          [.closing "launchConfiguration"]) := rfl
  simp only [readLaunch?, tagsOf_launch, inside, declarationTag, List.getLast?_concat, List.dropLast_concat,
    if_true, mapM_readSetting?, unescape?_escape]
  rfl

end Reading

/-- A descriptor is read back as its ten settings in order, whatever the names look like, and two descriptors
are the same text exactly where they are of the same test in the same module and project. -/
theorem launch_determines_settings :
    (∀ moduleName testName project, readLaunch? (launch moduleName testName project) =
      some (launchRecord moduleName testName project)) ∧
    ∀ moduleName testName project otherModule otherTest otherProject,
      launch moduleName testName project = launch otherModule otherTest otherProject ↔
        moduleName = otherModule ∧ testName = otherTest ∧ project = otherProject :=
  ⟨readLaunch?_launch, fun _ _ _ _ _ _ => launch_inj⟩

end SpecTest.Report
