import SpecTest.Document.Load
import SpecTest.Proofs.Document.Parts
import SpecTest.Proofs.Json.Reading

/-!
Transcripts and settings read back from the JSON documents that they are written as.
-/

namespace SpecTest

open SpecTest.Document SpecTest.Json

/-- The layer that settles everything as the settings do. -/
def Settings.layer (s : Settings) : SettingsLayer where
  moduleStart := s.moduleStart
  operationPattern := s.operationPattern
  testSourceDir := some s.testSourceDir
  coverageSourceDir := some s.coverageSourceDir
  recordCoverage := s.recordCoverage
  reportDir := s.reportDir
  coverageDir := s.coverageDir
  launchDir := some s.launchDir
  launchGeneration := s.launchGeneration
  launchProject := some s.launchProject
  violationCodes := ⟨s.violationCodes.precondition, s.violationCodes.postcondition, s.violationCodes.invariant⟩

theorem Settings.layer_over (s base : Settings) : s.layer.over base = s := rfl

namespace Document

section Transcripts

theorem readRaised_json : ReadsBack 1 (readRaised Json.format) Violation.json := by
  intro v room enough
  obtain ⟨room, rfl⟩ := Nat.exists_eq_add_of_le' enough
  have code := readCode_ofInt v.code room (Nat.zero_le room)
  simp [readRaised, readViolationFields, Violation.json, Fields.withDefault, code]

/-- A return is written as a name, a violation as a record of one field. -/
theorem readScriptedOutcome_json : ReadsBack 2 (readScriptedOutcome Json.format) Outcome.json := by
  intro o room enough
  cases o with
  | returned => rfl
  | violated v =>
      obtain ⟨room, rfl⟩ := Nat.exists_eq_add_of_le' (Nat.one_le_of_lt enough)
      have raised := readRaised_json v room (Nat.le_of_succ_le_succ enough)
      have chosen : Json.format.singleton ⟨room + 1, .ofFields [("violation", v.json)]⟩ =
          some ("violation", some ⟨room, v.json⟩) := rfl
      rw [readScriptedOutcome, Outcome.json, chosen]
      simp [readOutcomeCase, raised]

theorem readScriptedOperation_json : ReadsBack 3 (readScriptedOperation Json.format) ScriptedOperation.json := by
  intro o room enough
  obtain ⟨room, rfl⟩ := Nat.exists_eq_add_of_le' (Nat.one_le_of_lt enough)
  have arity := readUInt64_ofNat o.arity room (Nat.zero_le room)
  have outcome := readScriptedOutcome_json o.outcome room (Nat.le_of_succ_le_succ enough)
  simp [readScriptedOperation, ScriptedOperation.json, Fields.withDefault, arity, outcome]

theorem readScriptedModule_json : ReadsBack 5 (readScriptedModule Json.format) ScriptedModule.json := by
  intro m room enough
  obtain ⟨room, rfl⟩ := Nat.exists_eq_add_of_le' (Nat.one_le_of_lt enough)
  have files := readPath_json.list m.files room (by omega)
  have operations := readScriptedOperation_json.list m.operations room (by omega)
  simp [readScriptedModule, ScriptedModule.json, Fields.withDefault, files, operations]

/-- The numbers of a location are found among the fields of a hit, and its count beside them. -/
theorem readHit_json : ReadsBack 1 (readHit Json.format) Hit.json := by
  intro h room enough
  obtain ⟨room, rfl⟩ := Nat.exists_eq_add_of_le' enough
  have count := readUInt64_ofNat h.count room (Nat.zero_le room)
  simp [readHit, Hit.json, entries_ofFields, Location.fields, pickFields, locationNames, readLocationFields,
    Fields.withDefault, contentUnsigned_ofNat, count, Location.ofNumbers]

theorem readFileHits_json : ReadsBack 3 (readFileHits Json.format) FileHits.json := by
  intro f room enough
  obtain ⟨room, rfl⟩ := Nat.exists_eq_add_of_le' (Nat.one_le_of_lt enough)
  have file := readPath_json f.file room (Nat.zero_le room)
  have text := text_json.option nofun f.text room (Nat.zero_le room)
  have hits := readHit_json.list f.hits room (Nat.le_of_succ_le_succ enough)
  simp [readFileHits, FileHits.json, Fields.withDefault, file, text, hits]

theorem readDialect_json : ReadsBack 0 (readDialect Json.format) Dialect.json := by
  intro d room _
  cases d <;> rfl

theorem readTranscript_json : ReadsBack 7 (readTranscript Json.format) Transcript.json := by
  intro t room enough
  obtain ⟨room, rfl⟩ := Nat.exists_eq_add_of_le' (Nat.one_le_of_lt enough)
  have dialect := readDialect_json t.dialect room (Nat.zero_le room)
  have parseErrors := text_json.list t.parseErrors room (by omega)
  have typeErrors := text_json.list t.typeErrors room (by omega)
  have modules := readScriptedModule_json.list t.modules room (by omega)
  have coverage := readFileHits_json.list t.coverage room (by omega)
  simp [readTranscript, Transcript.json, Fields.withDefault, dialect, parseErrors, typeErrors, modules, coverage]

end Transcripts

section Settings

theorem readCodes_json (c : ViolationCodes) {room : Nat} (enough : 2 ≤ room) :
    readCodes Json.format ⟨room, c.json⟩ = some ⟨c.precondition, c.postcondition, c.invariant⟩ := by
  obtain ⟨room, rfl⟩ := Nat.exists_eq_add_of_le' (Nat.one_le_of_lt enough)
  have codes := fun s : CodeSet => readCodeSet_json s room (Nat.le_of_succ_le_succ enough)
  simp [readCodes, ViolationCodes.json, codes]

theorem readGeneration_json : ReadsBack 0 (readGeneration Json.format) LaunchGeneration.json := by
  intro g room _
  cases g <;> rfl

theorem readSettings_json (s : Settings) {room : Nat} (enough : 3 ≤ room) :
    readSettings Json.format ⟨room, s.json⟩ = some s.layer := by
  obtain ⟨room, rfl⟩ := Nat.exists_eq_add_of_le' (Nat.one_le_of_lt enough)
  have path := fun p : Path => readPath_json p room (Nat.zero_le room)
  have pathOption := fun p : Option Path => readPath_json.option nofun p room (Nat.zero_le room)
  have textOption := fun t : Option String => text_json.option nofun t room (Nat.zero_le room)
  have generation := readGeneration_json s.launchGeneration room (Nat.zero_le room)
  have codes := readCodes_json s.violationCodes (Nat.le_of_succ_le_succ enough)
  simp [readSettings, settingNames, Settings.json, Settings.layer, Fields.withDefault, path, pathOption,
    textOption, generation, codes]

end Settings

end Document

/-- A text that writes the value of a transcript, with blanks or without, reads as the transcript. -/
theorem Transcript.ofText_of_parse {t : Transcript} {text : String} (writes : parse? text = some t.json) :
    ofText .json text = .ok t := by
  simp [ofText, fromJson, writes, readTranscript_json t depthLimit (by decide)]

theorem Settings.ofJson_of_parse {s : Settings} {text : String} (writes : parse? text = some s.json) :
    ofJson text = .ok s := by
  have read : readSettings Json.format ⟨depthLimit, s.json⟩ = some s.layer :=
    readSettings_json s (by decide)
  simp [ofJson, fromJson, writes, read, layer_over, Except.map]

/-- Every transcript and all settings come back from what they are written as, and from any other
text of the same value. -/
theorem read_written :
    (∀ t : Transcript, Transcript.ofText .json t.json.text = .ok t ∧
      ∀ text, parse? text = some t.json → Transcript.ofText .json text = .ok t) ∧
    ∀ s : Settings, Settings.ofJson s.json.text = .ok s ∧
      ∀ text, parse? text = some s.json → Settings.ofJson text = .ok s :=
  ⟨fun t => ⟨t.ofText_of_parse (parse?_text t.json), fun _ => t.ofText_of_parse⟩,
    fun s => ⟨s.ofJson_of_parse (parse?_text s.json), fun _ => s.ofJson_of_parse⟩⟩

section Samples

def limits : Transcript where
  dialect := .vdmrt
  modules := [⟨"Test", [⟨"a.vdmsl"⟩],
    [⟨"test", 18446744073709551615, .violated ⟨-9223372036854775808, "\n"⟩⟩]⟩]
  coverage := [⟨⟨"a.vdmsl"⟩, none, [⟨.ofNumbers 1 1 1 4294967295, 18446744073709551615⟩]⟩]

theorem read_written_limits :
    Transcript.ofText .json limits.json.text = .ok limits ∧
    Transcript.ofText .json (String.ofList ('\n' :: ' ' :: limits.json.chars)) = .ok limits := by
  have writes : parse? (String.ofList (['\n', ' '] ++ limits.json.chars)) = some limits.json :=
    parse?_blanks_text limits.json (by simp [isBlank])
  exact ⟨(read_written.1 limits).1, (read_written.1 limits).2 _ writes⟩

end Samples

end SpecTest
