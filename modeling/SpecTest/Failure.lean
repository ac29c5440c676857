import SpecTest.Location
import SpecTest.Path
import SpecTest.Pattern.Parser

/-!
What can go wrong, in words and as an exit status.
-/

namespace SpecTest

inductive Dialect where
  | vdmsl
  | vdmpp
  | vdmrt
deriving DecidableEq, Repr, Inhabited

def Dialect.name : Dialect → String
  | vdmsl => "vdmsl"
  | vdmpp => "vdmpp"
  | vdmrt => "vdmrt"

inductive IoError where
  | notFound
  | busy
  | alreadyExists
  | notDirectory
  | isDirectory
  | invalidArgument
  | nameTooLong
  | notEmpty
  | nulInName
  | noTree
  | other (reason : String)
deriving DecidableEq, Repr, Inhabited

def IoError.message : IoError → String
  | notFound => "No such file or directory (os error 2)"
  | busy => "Device or resource busy (os error 16)"
  | alreadyExists => "File exists (os error 17)"
  | notDirectory => "Not a directory (os error 20)"
  | isDirectory => "Is a directory (os error 21)"
  | invalidArgument => "Invalid argument (os error 22)"
  | nameTooLong => "File name too long (os error 36)"
  | notEmpty => "Directory not empty (os error 39)"
  | nulInName => "file name contained an unexpected NUL byte"
  | noTree => "failed to create whole tree"
  | other reason => reason

inductive DocumentFormat where
  | json
  | yaml
deriving DecidableEq, Repr, Inhabited

def DocumentFormat.name : DocumentFormat → String
  | json => "JSON"
  | yaml => "YAML"

inductive DocumentError where
  /-- The text breaks the rules of its format. -/
  | malformed
  /-- The text is well-formed but does not hold what is asked for. -/
  | unexpected
deriving DecidableEq, Repr, Inhabited

def DocumentError.message : DocumentError → String
  | malformed => "malformed document"
  | unexpected => "unexpected content"

def documentMessage (format : DocumentFormat) (reason : DocumentError) : String :=
  format.name ++ " error: " ++ reason.message

inductive TranscriptError where
  | unreadable (format : DocumentFormat) (reason : DocumentError)
  | duplicateModule (name : String)
deriving DecidableEq, Repr

def TranscriptError.message : TranscriptError → String
  | unreadable format reason => documentMessage format reason
  | duplicateModule name => "duplicate module '" ++ name ++ "'"

inductive SettingsError where
  | unreadable (file : Path) (reason : DocumentError)
  /-- What is asked for needs a setting that is not given. -/
  | missing (complaint : String)
  | unknownGeneration (name : String)
deriving DecidableEq, Repr

def SettingsError.message : SettingsError → String
  | unreadable file reason => file.text ++ ": " ++ documentMessage .yaml reason
  | missing complaint => complaint
  | unknownGeneration name =>
    "unknown launch generation '" ++ name ++ "' (expected all, failing or none)"

inductive Failure where
  | overlappingLocations (file : Path) (location : Location) (cursor : Position)
  | locationOutOfRange (file : Path) (location : Location)
  | unsupportedDialect (dialect : Dialect)
  | parseFailed (count : Nat)
  | typeCheckFailed (count : Nat)
  | invalidPattern (pattern : String) (reason : Pattern.ReadError)
  | transcript (file : Path) (reason : TranscriptError)
  | settings (reason : SettingsError)
  | io (reason : IoError)
  | document (format : DocumentFormat) (reason : DocumentError)
  /-- The run is complete, but tests failed or had errors. -/
  | testsFailed (failures errors : Nat)
  /-- The times of a suite do not add up within a word, which ends the program at once. -/
  | timeOverflow
deriving DecidableEq, Repr

namespace Failure

def message : Failure → String
  | overlappingLocations file location cursor =>
    "Overlapping locations in " ++ file.text ++ ": " ++ location.text ++
      " starts before " ++ cursor.text
  | locationOutOfRange file location =>
    "Location " ++ location.text ++ " lies outside the source text of " ++ file.text
  | unsupportedDialect dialect =>
    "Test running only defined for VDM-SL currently (got " ++ dialect.name ++ ")"
  | parseFailed count => "Specification parse failed with " ++ toString count ++ " error(s)"
  | typeCheckFailed count =>
    "Specification type check failed with " ++ toString count ++ " error(s)"
  | invalidPattern pattern reason =>
    "Invalid operation pattern '" ++ pattern ++ "': " ++ reason.message
  | transcript file reason => "Invalid transcript " ++ file.text ++ ": " ++ reason.message
  | settings reason => "Configuration error: " ++ reason.message
  | io reason => "I/O error: " ++ reason.message
  | document format reason => documentMessage format reason
  | testsFailed failures errors =>
    "There were failing tests (" ++ toString failures ++ " failed, " ++
      toString errors ++ " had errors)"
  | timeOverflow => "attempt to add with overflow"

def exitStatus : Failure → UInt8
  | testsFailed .. => 1
  | unsupportedDialect _ => 2
  | parseFailed _ => 3
  | typeCheckFailed _ => 4
  | settings _ | invalidPattern .. | transcript .. | document .. => 5
  | overlappingLocations .. | locationOutOfRange .. | io _ => 6
  | timeOverflow => 101

end Failure

end SpecTest
