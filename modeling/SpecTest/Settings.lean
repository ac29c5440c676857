import SpecTest.Log
import SpecTest.Report.Launch
import SpecTest.Selector

/-!
The settings of a run, and layers of them that settle only some.
-/

namespace SpecTest

structure Settings where
  moduleStart : String := "Test"
  operationPattern : String := "^Test"
  testSourceDir : Option Path := none
  coverageSourceDir : Option Path := none
  recordCoverage : Bool := false
  reportDir : Path := ⟨"build/specrun/junitreports"⟩
  coverageDir : Path := ⟨"build/specrun/coverage"⟩
  launchDir : Option Path := some ⟨"build/specrun/launch"⟩
  launchGeneration : LaunchGeneration := .failing
  launchProject : Option String := none
  violationCodes : ViolationCodes := {}
deriving DecidableEq, Inhabited

structure CodesLayer where
  precondition : Option CodeSet := none
  postcondition : Option CodeSet := none
  invariant : Option CodeSet := none
deriving DecidableEq, Inhabited

def CodesLayer.over (l : CodesLayer) (base : ViolationCodes) : ViolationCodes :=
  ⟨l.precondition.getD base.precondition, l.postcondition.getD base.postcondition,
    l.invariant.getD base.invariant⟩

/-- A layer of settings: what it leaves open stays as it was below. -/
structure SettingsLayer where
  moduleStart : Option String := none
  operationPattern : Option String := none
  testSourceDir : Option (Option Path) := none
  coverageSourceDir : Option (Option Path) := none
  recordCoverage : Option Bool := none
  reportDir : Option Path := none
  coverageDir : Option Path := none
  launchDir : Option (Option Path) := none
  launchGeneration : Option LaunchGeneration := none
  launchProject : Option (Option String) := none
  violationCodes : CodesLayer := {}
deriving Inhabited

def SettingsLayer.over (l : SettingsLayer) (base : Settings) : Settings where
  moduleStart := l.moduleStart.getD base.moduleStart
  operationPattern := l.operationPattern.getD base.operationPattern
  testSourceDir := l.testSourceDir.getD base.testSourceDir
  coverageSourceDir := l.coverageSourceDir.getD base.coverageSourceDir
  recordCoverage := l.recordCoverage.getD base.recordCoverage
  reportDir := l.reportDir.getD base.reportDir
  coverageDir := l.coverageDir.getD base.coverageDir
  launchDir := l.launchDir.getD base.launchDir
  launchGeneration := l.launchGeneration.getD base.launchGeneration
  launchProject := l.launchProject.getD base.launchProject
  violationCodes := l.violationCodes.over base.violationCodes

namespace Settings

def selector (s : Settings) : Except Failure Selector := do
  let selector ← ({ moduleStart := s.moduleStart } : Selector).withPattern s.operationPattern
  return match s.testSourceDir with
    | some dir => selector.withSourceDir dir
    | none => selector

def noLaunchDir : SettingsError :=
  .missing "asked to generate launch files, but no launch directory specified"

def noLaunchProject : SettingsError :=
  .missing "asked to generate launch files, but no launch project specified"

/-- Settings that ask for launch descriptors need a place and a project for them. -/
def checkLaunch (s : Settings) : Except Failure Unit :=
  if s.launchGeneration = .none then .ok ()
  else if s.launchDir.isNone then .error (.settings noLaunchDir)
  else if s.launchProject.isNone then .error (.settings noLaunchProject)
  else .ok ()

def warnings (s : Settings) : List LogEvent :=
  s.violationCodes.overlapping.map fun code =>
    ⟨.warn, "violation code " ++ toString code.toInt ++ " appears in more than one category"⟩

/-- Checks the settings, and gives the warnings about them if nothing is wrong. -/
def validate (s : Settings) : Except Failure (List LogEvent) := do
  let _ ← s.selector
  s.checkLaunch
  return s.warnings

end Settings

end SpecTest
