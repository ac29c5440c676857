import SpecTest.CommandLine.Parser
import SpecTest.Session

/-!
The commands of the program, and what a command line asks for.
-/

namespace SpecTest.CommandLine

structure TestArgs where
  transcript : Path
  config : Option Path := none
  reportDir : Option Path := none
  coverage : Bool := false
  coverageDir : Option Path := none
  coverageSourceDir : Option Path := none
  testSourceDir : Option Path := none
  launchDir : Option Path := none
  launchGeneration : Option LaunchGeneration := none
  launchProject : Option String := none
  moduleStart : Option String := none
  operationPattern : Option String := none
deriving DecidableEq, Repr, Inhabited

structure ListArgs where
  transcript : Path
  config : Option Path := none
deriving DecidableEq, Repr, Inhabited

inductive Action where
  | test (args : TestArgs)
  | list (args : ListArgs)
deriving DecidableEq, Repr, Inhabited

structure Invocation where
  verbose : Nat := 0
  quiet : Bool := false
  color : ColorChoice := .auto
  action : Action
deriving DecidableEq, Repr, Inhabited

namespace Invocation

def output (i : Invocation) : OutputSettings := ⟨Verbosity.ofFlags i.quiet i.verbose, i.color⟩

end Invocation

def pathValue : OptionKind := .value (· != "")

def textValue : OptionKind := .value fun _ => true

def colorNames : List (String × ColorChoice) :=
  [("auto", .auto), ("always", .always), ("never", .never)]

def version : String := "0.4.0"

def commonOptions (name : String) : List Opt :=
  [⟨"verbose", some 'v', .counter⟩, ⟨"quiet", some 'q', .toggle⟩,
    ⟨"color", none, .value fun v => (colorNames.lookup v).isSome⟩,
    ⟨"help", some 'h', .help⟩, ⟨"version", some 'V', .version (name ++ " " ++ version)⟩]

def rootCommand : Command := { name := "specrun", options := commonOptions "specrun" }

def transcriptArgument : Opt := ⟨"transcript", none, pathValue⟩

def testCommand : Command where
  name := "test"
  options := commonOptions "specrun-test" ++ [
    ⟨"config", some 'c', pathValue⟩, ⟨"report-dir", none, pathValue⟩,
    ⟨"coverage", none, .toggle⟩, ⟨"coverage-dir", none, pathValue⟩,
    ⟨"coverage-source-dir", none, pathValue⟩, ⟨"test-source-dir", none, pathValue⟩,
    ⟨"launch-dir", none, pathValue⟩,
    ⟨"launch-generation", none, .value fun v => (LaunchGeneration.named? v).isSome⟩,
    ⟨"launch-project", none, textValue⟩, ⟨"module-prefix", none, textValue⟩,
    ⟨"operation-pattern", none, textValue⟩]
  argument := some transcriptArgument

def listCommand : Command where
  name := "list"
  options := commonOptions "specrun-list" ++ [⟨"config", some 'c', pathValue⟩]
  argument := some transcriptArgument

def Level.path? (l : Level) (name : String) : Option Path := (l.value? name).map Path.mk

def Level.transcript (l : Level) : Path := ⟨(l.value? "transcript").getD ""⟩

def TestArgs.ofLevel (l : Level) : TestArgs where
  transcript := l.transcript
  config := l.path? "config"
  reportDir := l.path? "report-dir"
  coverage := l.has "coverage"
  coverageDir := l.path? "coverage-dir"
  coverageSourceDir := l.path? "coverage-source-dir"
  testSourceDir := l.path? "test-source-dir"
  launchDir := l.path? "launch-dir"
  launchGeneration := (l.value? "launch-generation").bind LaunchGeneration.named?
  launchProject := l.value? "launch-project"
  moduleStart := l.value? "module-prefix"
  operationPattern := l.value? "operation-pattern"

/-- Where an option is given: behind the command, or else in front of it. -/
def giverOf (outer inner : Level) (name : String) : Level := if inner.has name then inner else outer

def Invocation.ofArgs (args : List String) : Except UsageError Invocation := do
  let (outer, name, inner) ← readProgram rootCommand [testCommand, listCommand] args
  let color := ((giverOf outer inner "color").value? "color").bind fun v => colorNames.lookup v
  return {
    verbose := min 255 ((giverOf outer inner "verbose").count "verbose")
    quiet := (giverOf outer inner "quiet").has "quiet"
    color := color.getD .auto
    action :=
      if name = "test" then .test (TestArgs.ofLevel inner)
      else .list ⟨inner.transcript, inner.path? "config"⟩ }

namespace TestArgs

def layer (a : TestArgs) : SettingsLayer where
  moduleStart := a.moduleStart
  operationPattern := a.operationPattern
  testSourceDir := a.testSourceDir.map some
  coverageSourceDir := a.coverageSourceDir.map some
  recordCoverage := if a.coverage then some true else none
  reportDir := a.reportDir
  coverageDir := a.coverageDir
  launchDir := a.launchDir.map some
  launchGeneration := a.launchGeneration
  launchProject := a.launchProject.map some

variable {m : Type → Type} [Monad m] [Host m]

/-- Names the launch project after the working directory if descriptors are made and nothing else
names it. -/
def withProject (s : Settings) (workDir : Option String) : Settings :=
  if s.launchGeneration ≠ .none ∧ s.launchProject.isNone then { s with launchProject := workDir }
  else s

/-- The settings of a run: the options over the file over the defaults. -/
def settings (a : TestArgs) : Task m Settings := do
  let file ← SettingsLayer.loadOption a.config
  let s := withProject (a.layer.over (file.over {})) (← (Host.workDirName : m (Option String)))
  Task.logAll (← Task.ofExcept s.validate)
  return s

def run (a : TestArgs) (output : OutputSettings) (hostname : String) : Task m SessionOutcome := do
  runSession output (← a.settings) hostname a.transcript

def execute (a : TestArgs) (output : OutputSettings) : Task m SessionOutcome := do
  let outcome ← a.run output (← (Host.hostname : m String))
  Task.ofExcept outcome.demandSuccess

end TestArgs

def ListArgs.execute {m : Type → Type} [Monad m] [Host m] (a : ListArgs) : Task m String := do
  let settings := (← SettingsLayer.loadOption a.config).over {}
  let script ← Script.load a.transcript
  script.check
  let selector ← Task.ofExcept settings.selector
  return Suite.listAll (selector.discover script.modules)

def Invocation.perform {m : Type → Type} [Monad m] [Host m] (i : Invocation) : Task m String := do
  match i.action with
  | .test a =>
    let _ ← a.execute i.output
    return ""
  | .list a => a.execute

end SpecTest.CommandLine
