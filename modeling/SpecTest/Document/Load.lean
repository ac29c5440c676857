import SpecTest.Document.Decode
import SpecTest.Json.Format
import SpecTest.Json.Reader
import SpecTest.Yaml.Format

/-!
Documents from their texts.
-/

namespace SpecTest

namespace Document

def fromJson (read : Json.Nested → Option α) (text : String) : Except DocumentError α :=
  match Json.parse? text with
  | none => .error .malformed
  | some v =>
    match read ⟨Json.depthLimit, v⟩ with
    | none => .error .unexpected
    | some a => .ok a

def fromYaml (read : Yaml.Nested → Yaml.Read α) (text : String) : Except DocumentError α :=
  match Yaml.Document.parse? text with
  | none => .error .malformed
  | some d =>
    match d.read? read with
    | none => .error .unexpected
    | some a => .ok a

end Document

open SpecTest.Document

namespace Transcript

def ofText (format : DocumentFormat) (text : String) : Except DocumentError Transcript :=
  match format with
  | .json => fromJson (readTranscript Json.format) text
  | .yaml => fromYaml (readTranscript Yaml.format) text

end Transcript

namespace SettingsLayer

/-- The layer that a text writes.  A blank text settles nothing. -/
def ofText (text : String) : Except DocumentError SettingsLayer :=
  if text.toList.all SpecTest.Unicode.whiteSpace.contains then .ok {}
  else fromYaml (readSettings Yaml.format) text

end SettingsLayer

/-- The settings that a JSON text writes; what it leaves out is as it is by default. -/
def Settings.ofJson (text : String) : Except DocumentError Settings :=
  (fromJson (readSettings Json.format) text).map (·.over {})

end SpecTest
