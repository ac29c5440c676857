import SpecTest.Selector

/-!
Transcripts: what a checked specification consists of, how each of its operations ends when it is
called, and what was recorded about its source files.
-/

namespace SpecTest

structure ScriptedOperation where
  name : String
  arity : UInt64 := 0
  outcome : Outcome := .returned
deriving DecidableEq, Repr, Inhabited

structure ScriptedModule where
  name : String
  files : List Path := []
  operations : List ScriptedOperation := []
deriving DecidableEq, Repr, Inhabited

/-- What was recorded about a source file; its text may be recorded too. -/
structure FileHits where
  file : Path
  text : Option String := none
  hits : List Hit := []
deriving DecidableEq, Repr, Inhabited

structure Transcript where
  dialect : Dialect := .vdmsl
  parseErrors : List String := []
  typeErrors : List String := []
  modules : List ScriptedModule := []
  coverage : List FileHits := []
deriving DecidableEq, Repr, Inhabited

def ScriptedOperation.info (o : ScriptedOperation) : OperationInfo := ⟨o.name, o.arity⟩

namespace Transcript

def firstRepeated? : List String → List String → Option String
  | _, [] => none
  | seen, name :: rest => if name ∈ seen then some name else firstRepeated? (name :: seen) rest

def validate (t : Transcript) : Except TranscriptError Unit :=
  match firstRepeated? [] (t.modules.map (·.name)) with
  | some name => .error (.duplicateModule name)
  | none => .ok ()

def problems (t : Transcript) : List String × Option Failure :=
  if !t.parseErrors.isEmpty then (t.parseErrors, some (.parseFailed t.parseErrors.length))
  else if !t.typeErrors.isEmpty then (t.typeErrors, some (.typeCheckFailed t.typeErrors.length))
  else if t.dialect ≠ .vdmsl then ([], some (.unsupportedDialect t.dialect))
  else ([], none)

end Transcript

/-- A transcript with the directory from which its paths are seen. -/
structure Script where
  transcript : Transcript
  baseDir : Path
deriving DecidableEq, Repr, Inhabited

namespace Script

def resolve (s : Script) (file : Path) : Path := (s.baseDir.join file).normalize

def modules (s : Script) : List ModuleInfo :=
  s.transcript.modules.map fun m =>
    ⟨m.name, m.files.map s.resolve, m.operations.map (·.info)⟩

/-- What was recorded about a file: the first entry counts. -/
def fileHits? (s : Script) (file : Path) : Option FileHits :=
  s.transcript.coverage.find? fun h => (s.resolve h.file).same file

def hits (s : Script) (file : Path) : List Hit := ((s.fileHits? file).map (·.hits)).getD []

def text? (s : Script) (file : Path) : Option String := (s.fileHits? file).bind (·.text)

def notInScope : Int64 := 4034

/-- How the call of an operation of a module ends; the first of equal names counts. -/
def call (s : Script) (moduleName operation : String) : Outcome :=
  let found := (s.transcript.modules.find? (·.name == moduleName)).bind fun m =>
    m.operations.find? (·.name == operation)
  match found with
  | some o => o.outcome
  | none => .violated ⟨notInScope, "Name '" ++ operation ++ "' is not in scope"⟩

end Script

end SpecTest
