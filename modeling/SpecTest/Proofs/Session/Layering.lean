import Mathlib.Data.List.Basic
import SpecTest.CommandLine.Program
import SpecTest.Proofs.Host.Reading
import SpecTest.Proofs.Unicode.WhiteSpace
import SpecTest.Proofs.Yaml.Fields

/-!
The settings of a run in layers: an option settles a setting, a key of the file settles it where no option
does, and what neither settles is as it is by default.
-/

namespace SpecTest

open SpecTest.CommandLine SpecTest.Data SpecTest.Document SpecTest.Task SpecTest.Yaml

section Records

/-- Does the text make this record?  A blank text makes one without keys. -/
def MakesRecord (text : String) (r : Record) : Prop :=
  if text.toList.all Unicode.whiteSpace.contains then r = {}
  else ∃ d, Yaml.Document.parse? text = some d ∧ r.anchors = d.anchors ∧
    Gives d.anchors (Nested.entries ⟨depthLimit, d.root.getD .blank⟩) r.entries

/-- Is this the record of the file of settings, if there is one? -/
def IsFileRecord (config : Option Path) (d : Disk) (r : Record) : Prop :=
  match config with
  | none => r = {}
  | some file => ∃ text, d.readText file = .ok text ∧ MakesRecord text r

/-- The setting under a key: what was given for it, or else what the record holds, or else the default. -/
def Yaml.Record.Settles {α : Type} (r : Record) (key : String) (read : Nested → Read α) (given : Option α)
    (default value : α) : Prop :=
  ∃ held, r.Holds key read held ∧ value = (given <|> held).getD default

/-- The codes of violations that a record holds, each category by itself. -/
structure Yaml.Record.SettlesCodes (r : Record) (codes : ViolationCodes) : Prop where
  precondition : r.Settles "precondition" (readCodeSet format) none (Ascending.ofList [4055, 4071])
    codes.precondition
  postcondition : r.Settles "postcondition" (readCodeSet format) none (Ascending.ofList [4056, 4072])
    codes.postcondition
  invariant : r.Settles "invariant" (readCodeSet format) none (Ascending.ofList [4060, 4079, 4082])
    codes.invariant

/-- Are these the settings of a command with the file and the working directory, each by its own option and
its own key? -/
structure CommandLine.TestArgs.Layers (a : TestArgs) (file : Record) (workDir : Option String) (s : Settings) :
    Prop where
  moduleStart : file.Settles "module_prefix" format.text a.moduleStart "Test" s.moduleStart
  operationPattern : file.Settles "operation_pattern" format.text a.operationPattern "^Test" s.operationPattern
  testSourceDir : file.Settles "test_source_dir" (format.option (readPath format)) (a.testSourceDir.map some) none
    s.testSourceDir
  coverageSourceDir : file.Settles "coverage_source_dir" (format.option (readPath format))
    (a.coverageSourceDir.map some) none s.coverageSourceDir
  recordCoverage : ∃ held, file.Holds "record_coverage" format.bool held ∧
    s.recordCoverage = (a.coverage || held.getD false)
  reportDir : file.Settles "report_dir" (readPath format) a.reportDir ⟨"build/specrun/junitreports"⟩ s.reportDir
  coverageDir : file.Settles "coverage_dir" (readPath format) a.coverageDir ⟨"build/specrun/coverage"⟩
    s.coverageDir
  launchDir : file.Settles "launch_dir" (format.option (readPath format)) (a.launchDir.map some)
    (some ⟨"build/specrun/launch"⟩) s.launchDir
  launchGeneration : file.Settles "launch_generation" (readGeneration format) a.launchGeneration .failing
    s.launchGeneration
  launchProject : ∃ held, file.Holds "launch_project" (format.option format.text) held ∧
    s.launchProject = (a.launchProject <|> held.join <|> if s.launchGeneration = .none then none else workDir)
  violationCodes : ∃ held, file.Holds "violation_codes" Nested.entries held ∧
    ({ file with entries := held.getD [] } : Record).SettlesCodes s.violationCodes

end Records

section Reading

variable {layer : SettingsLayer} {v : Nested} {s t : Aliases}

/-- Does each part of the layer say what the record holds under its key? -/
structure CodesLayer.IsOf (layer : CodesLayer) (r : Record) : Prop where
  precondition : r.Holds "precondition" (readCodeSet format) layer.precondition
  postcondition : r.Holds "postcondition" (readCodeSet format) layer.postcondition
  invariant : r.Holds "invariant" (readCodeSet format) layer.invariant

structure SettingsLayer.IsOf (layer : SettingsLayer) (r : Record) : Prop where
  moduleStart : r.Holds "module_prefix" format.text layer.moduleStart
  operationPattern : r.Holds "operation_pattern" format.text layer.operationPattern
  testSourceDir : r.Holds "test_source_dir" (format.option (readPath format)) layer.testSourceDir
  coverageSourceDir : r.Holds "coverage_source_dir" (format.option (readPath format)) layer.coverageSourceDir
  recordCoverage : r.Holds "record_coverage" format.bool layer.recordCoverage
  reportDir : r.Holds "report_dir" (readPath format) layer.reportDir
  coverageDir : r.Holds "coverage_dir" (readPath format) layer.coverageDir
  launchDir : r.Holds "launch_dir" (format.option (readPath format)) layer.launchDir
  launchGeneration : r.Holds "launch_generation" (readGeneration format) layer.launchGeneration
  launchProject : r.Holds "launch_project" (format.option format.text) layer.launchProject
  violationCodes : ∃ held, r.Holds "violation_codes" Nested.entries held ∧
    layer.violationCodes.IsOf { r with entries := held.getD [] }

theorem readCodes_eq_some {codes : CodesLayer} (done : readCodes format v s = some (codes, t)) :
    ∃ entries, Gives s.anchors v.entries entries ∧ codes.IsOf ⟨s.anchors, entries⟩ := by
  obtain ⟨fs, s₀, listed, rest⟩ := bind_eq_some_iff.mp done
  obtain ⟨entries, read, found, picked, rfl⟩ := fields_eq_some listed
  have kept := v.entries_steady.anchors read
  obtain ⟨_, s₁, precondition, kept, rest⟩ :=
    given?_bind_eq_some readCodeSet_steady picked (by decide) kept rest
  obtain ⟨_, s₂, postcondition, kept, rest⟩ :=
    given?_bind_eq_some readCodeSet_steady picked (by decide) kept rest
  obtain ⟨_, s₃, invariant, kept, rest⟩ :=
    given?_bind_eq_some readCodeSet_steady picked (by decide) kept rest
  cases rest
  exact ⟨entries, ⟨_, _, read⟩, precondition, postcondition, invariant⟩

theorem readCodes_steady (n : Nested) : Steady (readCodes format n) := by
  have field (fs : Fields Nested) (key : String) : Steady (fs.given? key (readCodeSet format)) :=
    given?_steady readCodeSet_steady fs key
  exact (fields_steady _ n).bind fun fs => (field fs _).bind fun _ => (field fs _).bind fun _ =>
    (field fs _).bind fun _ => .pure _

theorem readSettings_eq_some (done : readSettings format v s = some (layer, t)) :
    ∃ entries, Gives s.anchors v.entries entries ∧ layer.IsOf ⟨s.anchors, entries⟩ := by
  obtain ⟨fs, s₀, listed, rest⟩ := bind_eq_some_iff.mp done
  obtain ⟨entries, read, found, picked, rfl⟩ := fields_eq_some listed
  have kept := v.entries_steady.anchors read
  have path := option_steady readPath_steady
  obtain ⟨_, s₁, moduleStart, kept, rest⟩ :=
    given?_bind_eq_some Nested.text_steady picked (by decide) kept rest
  obtain ⟨_, s₂, operationPattern, kept, rest⟩ :=
    given?_bind_eq_some Nested.text_steady picked (by decide) kept rest
  obtain ⟨_, s₃, testSourceDir, kept, rest⟩ := given?_bind_eq_some path picked (by decide) kept rest
  obtain ⟨_, s₄, coverageSourceDir, kept, rest⟩ := given?_bind_eq_some path picked (by decide) kept rest
  obtain ⟨_, s₅, recordCoverage, kept, rest⟩ :=
    given?_bind_eq_some Nested.bool_steady picked (by decide) kept rest
  obtain ⟨_, s₆, reportDir, kept, rest⟩ :=
    given?_bind_eq_some readPath_steady picked (by decide) kept rest
  obtain ⟨_, s₇, coverageDir, kept, rest⟩ :=
    given?_bind_eq_some readPath_steady picked (by decide) kept rest
  obtain ⟨_, s₈, launchDir, kept, rest⟩ := given?_bind_eq_some path picked (by decide) kept rest
  obtain ⟨_, s₉, launchGeneration, kept, rest⟩ :=
    given?_bind_eq_some readGeneration_steady picked (by decide) kept rest
  obtain ⟨_, s₁₀, launchProject, kept, rest⟩ :=
    given?_bind_eq_some (option_steady Nested.text_steady) picked (by decide) kept rest
  obtain ⟨layers, s₁₁, defaulted, rest⟩ := bind_eq_some_iff.mp rest
  obtain ⟨held, s₁₂, violationCodes, -, done⟩ :=
    given?_bind_eq_some readCodes_steady picked (by decide) kept defaulted
  cases rest
  cases done
  refine ⟨entries, ⟨_, _, read⟩, moduleStart, operationPattern, testSourceDir, coverageSourceDir, recordCoverage,
    reportDir, coverageDir, launchDir, launchGeneration, launchProject, ?_⟩
  cases held with
  | none => exact ⟨none, violationCodes, rfl, rfl, rfl⟩
  | some codes =>
      obtain ⟨node, found, left, rest, value⟩ := violationCodes
      obtain ⟨inside, gives, codesHeld⟩ := readCodes_eq_some value
      exact ⟨some inside, ⟨node, found, gives⟩, codesHeld⟩

theorem SettingsLayer.isOf_blank : SettingsLayer.IsOf {} {} := by
  constructor
  case violationCodes => exact ⟨none, rfl, rfl, rfl, rfl⟩
  all_goals rfl

/-- The text of a layer makes a record, and the layer is that of the record. -/
theorem SettingsLayer.ofText_eq_ok {text : String} (read : SettingsLayer.ofText text = .ok layer) :
    ∃ r, MakesRecord text r ∧ layer.IsOf r := by
  rw [ofText] at read
  split at read
  · rename_i blank
    cases read
    exact ⟨{}, by rw [MakesRecord, if_pos blank], isOf_blank⟩
  · rename_i settles
    rw [fromYaml] at read
    split at read
    · cases read
    · rename_i d parsed
      split at read
      · cases read
      · rename_i read?
        cases read
        obtain ⟨⟨_, rest⟩, done, rfl⟩ := Option.map_eq_some_iff.mp read?
        obtain ⟨entries, gives, isOf⟩ := readSettings_eq_some done
        exact ⟨⟨d.anchors, entries⟩, by rw [MakesRecord, if_neg settles]; exact ⟨d, parsed, rfl, gives⟩, isOf⟩

end Reading

section Loading

variable {config : Option Path} {w : World}

theorem readText_on (file : Path) (w : World) :
    (ofHost (Host.readText file) : Task (StateM World) String).on w =
      ((w.disk.readText file).mapError .io, w) := by
  rw [on_ofHost]
  rfl

theorem SettingsLayer.load_on_of_unread {file : Path} {e : IoError} (unread : w.disk.readText file = .error e) :
    (SettingsLayer.load file).on w = (.error (.io e), w) := by
  rw [load, on_bind, readText_on, unread]
  rfl

theorem SettingsLayer.load_on_of_read {file : Path} {text : String} (read : w.disk.readText file = .ok text) :
    (SettingsLayer.load file).on w =
      ((SettingsLayer.ofText text).mapError fun reason => .settings (.unreadable file reason), w) := by
  rw [load, on_bind, readText_on, read]
  dsimp only [Except.mapError]
  cases SettingsLayer.ofText text <;> rfl

/-- Loading the file of settings fails, or it gives the layer of its record.  Either way it does nothing
else. -/
theorem SettingsLayer.loadOption_cases (config : Option Path) (w : World) :
    (∃ e, (SettingsLayer.loadOption config).on w = (.error e, w)) ∨
      ∃ layer r, (SettingsLayer.loadOption config).on w = (.ok layer, w) ∧
        IsFileRecord config w.disk r ∧ layer.IsOf r := by
  cases config with
  | none => exact .inr ⟨{}, {}, rfl, rfl, isOf_blank⟩
  | some file =>
      cases answer : w.disk.readText file with
      | error e => exact .inl ⟨_, load_on_of_unread answer⟩
      | ok text =>
          have loaded := load_on_of_read answer
          cases layered : SettingsLayer.ofText text with
          | error reason =>
              rw [layered] at loaded
              exact .inl ⟨_, loaded⟩
          | ok layer =>
              rw [layered] at loaded
              obtain ⟨r, makes, isOf⟩ := ofText_eq_ok layered
              exact .inr ⟨layer, r, loaded, ⟨text, answer, makes⟩, isOf⟩

end Loading

section Settling

variable {a : TestArgs} {file : Record} {layer : SettingsLayer} {workDir : Option String}

theorem CommandLine.TestArgs.withProject_eq (s : Settings) (workDir : Option String) :
    withProject s workDir = { s with
      launchProject := s.launchProject <|> if s.launchGeneration = .none then none else workDir } := by
  rw [withProject]
  split
  · rename_i needed
    have unnamed : s.launchProject = none := Option.isNone_iff_eq_none.mp needed.2
    rw [unnamed, if_neg needed.1]
    rfl
  · rename_i settled
    have same : (s.launchProject <|> if s.launchGeneration = .none then none else workDir) = s.launchProject := by
      cases named : s.launchProject with
      | some project => rfl
      | none =>
          have off : s.launchGeneration = .none :=
            Decidable.byContradiction fun on => settled ⟨on, by rw [named]; rfl⟩
          rw [if_pos off]
          rfl
    rw [same]

theorem Yaml.Record.Holds.settles {α : Type} {key : String} {read : Nested → Read α} {held : Option α}
    (holds : file.Holds key read held) (given : Option α) (default : α) :
    file.Settles key read given default (given.getD (held.getD default)) :=
  ⟨held, holds, by cases given <;> rfl⟩

theorem CommandLine.TestArgs.layers_of (isOf : layer.IsOf file) :
    a.Layers file workDir (withProject (a.layer.over (layer.over {})) workDir) := by
  rw [withProject_eq]
  constructor
  case moduleStart => exact isOf.moduleStart.settles _ _
  case operationPattern => exact isOf.operationPattern.settles _ _
  case testSourceDir => exact isOf.testSourceDir.settles _ _
  case coverageSourceDir => exact isOf.coverageSourceDir.settles _ _
  case recordCoverage =>
    refine ⟨_, isOf.recordCoverage, ?_⟩
    change (if a.coverage then some true else none).getD (layer.recordCoverage.getD false) = _
    cases a.coverage <;> rfl
  case reportDir => exact isOf.reportDir.settles _ _
  case coverageDir => exact isOf.coverageDir.settles _ _
  case launchDir => exact isOf.launchDir.settles _ _
  case launchGeneration => exact isOf.launchGeneration.settles _ _
  case launchProject =>
    refine ⟨_, isOf.launchProject, ?_⟩
    change ((a.launchProject.map some).getD (layer.launchProject.getD none) <|> _) = _
    cases a.launchProject with
    | some project => rfl
    | none => cases layer.launchProject <;> rfl
  case violationCodes =>
    obtain ⟨held, holds, codes⟩ := isOf.violationCodes
    exact ⟨held, holds, codes.precondition.settles none _, codes.postcondition.settles none _,
      codes.invariant.settles none _⟩

theorem CommandLine.TestArgs.settings_on {w : World} (a : TestArgs)
    (loaded : (SettingsLayer.loadOption a.config).on w = (.ok layer, w)) {s : Settings}
    (settled : withProject (a.layer.over (layer.over {})) w.disk.workDir.getLast? = s) :
    a.settings.on w = match s.validate with
      | .ok warnings => (.ok s, { w with logged := warnings.reverse ++ w.logged })
      | .error e => (.error e, w) := by
  have named : (liftM (Host.workDirName : StateM World (Option String)) : Task (StateM World) _).on w =
      (.ok w.disk.workDir.getLast?, w) := rfl
  rw [settings, on_bind, loaded]
  dsimp only
  rw [on_bind, named]
  dsimp only
  rw [settled, on_bind, on_ofExcept]
  cases s.validate with
  | error e => rfl
  | ok warnings =>
      dsimp only
      rw [on_bind, logAll_on]
      rfl

end Settling

section Determining

variable {a : TestArgs} {file : Record} {workDir : Option String} {s t : Settings}

theorem Yaml.Record.Settles.unique {α : Type} {key : String} {read : Nested → Read α} {given : Option α}
    {default value other : α} (steady : ∀ n, Steady (read n)) (settles : file.Settles key read given default value)
    (settlesToo : file.Settles key read given default other) : value = other := by
  obtain ⟨held, holds, rfl⟩ := settles
  obtain ⟨heldToo, holdsToo, rfl⟩ := settlesToo
  rw [holds.unique steady holdsToo]

theorem Yaml.Record.SettlesCodes.unique {codes other : ViolationCodes} (settles : file.SettlesCodes codes)
    (settlesToo : file.SettlesCodes other) : codes = other := by
  cases codes
  cases other
  rw [ViolationCodes.mk.injEq]
  exact ⟨settles.precondition.unique readCodeSet_steady settlesToo.precondition,
    settles.postcondition.unique readCodeSet_steady settlesToo.postcondition,
    settles.invariant.unique readCodeSet_steady settlesToo.invariant⟩

/-- The layers settle every setting. -/
theorem CommandLine.TestArgs.Layers.unique (layers : a.Layers file workDir s)
    (layersToo : a.Layers file workDir t) : s = t := by
  have path := option_steady readPath_steady
  have generation := layers.launchGeneration.unique readGeneration_steady layersToo.launchGeneration
  have recordCoverage : s.recordCoverage = t.recordCoverage := by
    obtain ⟨held, holds, settled⟩ := layers.recordCoverage
    obtain ⟨heldToo, holdsToo, settledToo⟩ := layersToo.recordCoverage
    rw [settled, settledToo, holds.unique Nested.bool_steady holdsToo]
  have project : s.launchProject = t.launchProject := by
    obtain ⟨held, holds, settled⟩ := layers.launchProject
    obtain ⟨heldToo, holdsToo, settledToo⟩ := layersToo.launchProject
    rw [settled, settledToo, generation, holds.unique (option_steady Nested.text_steady) holdsToo]
  have codes : s.violationCodes = t.violationCodes := by
    obtain ⟨held, holds, settled⟩ := layers.violationCodes
    obtain ⟨heldToo, holdsToo, settledToo⟩ := layersToo.violationCodes
    rw [holds.unique Nested.entries_steady holdsToo] at settled
    exact settled.unique settledToo
  cases s
  cases t
  rw [Settings.mk.injEq]
  exact ⟨layers.moduleStart.unique Nested.text_steady layersToo.moduleStart,
    layers.operationPattern.unique Nested.text_steady layersToo.operationPattern,
    layers.testSourceDir.unique path layersToo.testSourceDir,
    layers.coverageSourceDir.unique path layersToo.coverageSourceDir, recordCoverage,
    layers.reportDir.unique readPath_steady layersToo.reportDir,
    layers.coverageDir.unique readPath_steady layersToo.coverageDir,
    layers.launchDir.unique path layersToo.launchDir, generation, project, codes⟩

theorem MakesRecord.unique {text : String} {r other : Record} (makes : MakesRecord text r)
    (makesToo : MakesRecord text other) : r = other := by
  rw [MakesRecord] at makes makesToo
  split at makes
  · rename_i blank
    rw [if_pos blank] at makesToo
    rw [makes, makesToo]
  · rename_i settles
    rw [if_neg settles] at makesToo
    obtain ⟨d, parsed, anchors, gives⟩ := makes
    obtain ⟨dToo, parsedToo, anchorsToo, givesToo⟩ := makesToo
    rw [parsed] at parsedToo
    cases parsedToo
    cases r
    cases other
    rw [Record.mk.injEq]
    exact ⟨anchors.trans anchorsToo.symm, gives.unique (Nested.entries_steady _) givesToo⟩

theorem IsFileRecord.unique {config : Option Path} {d : Disk} {r other : Record}
    (isRecord : IsFileRecord config d r) (isRecordToo : IsFileRecord config d other) : r = other := by
  cases config with
  | none => exact isRecord.trans isRecordToo.symm
  | some file =>
      obtain ⟨text, read, makes⟩ := isRecord
      obtain ⟨textToo, readToo, makesToo⟩ := isRecordToo
      rw [read] at readToo
      cases readToo
      exact makes.unique makesToo

end Determining

/-- A command fails to settle its settings where it cannot load its file or where they are refused, and does
nothing else then.  Otherwise it runs with the settings of its layers, which settle each of them by its own
option and its own key. -/
theorem settings_layered (a : TestArgs) (w : World) :
    (∃ e, (SettingsLayer.loadOption a.config).on w = (.error e, w) ∧ a.settings.on w = (.error e, w)) ∨
    ∃ file s, (∃ layer, (SettingsLayer.loadOption a.config).on w = (.ok layer, w)) ∧
      IsFileRecord a.config w.disk file ∧ a.Layers file w.disk.workDir.getLast? s ∧
      (∀ other t, IsFileRecord a.config w.disk other → a.Layers other w.disk.workDir.getLast? t → t = s) ∧
      a.settings.on w = match s.validate with
        | .ok warnings => (.ok s, { w with logged := warnings.reverse ++ w.logged })
        | .error e => (.error e, w) := by
  rcases SettingsLayer.loadOption_cases a.config w with ⟨e, failed⟩ | ⟨layer, file, loaded, isRecord, isOf⟩
  · left
    refine ⟨e, failed, ?_⟩
    rw [TestArgs.settings, on_bind, failed]
  · right
    have layers : a.Layers file w.disk.workDir.getLast? _ := TestArgs.layers_of isOf
    refine ⟨file, _, ⟨layer, loaded⟩, isRecord, layers, fun other t isRecordToo layersToo => ?_,
      a.settings_on loaded rfl⟩
    rw [isRecordToo.unique isRecord] at layersToo
    exact layersToo.unique layers

section Samples

/-- A file that settles where the documents and the pages go. -/
def layeredWorld : World where
  disk.workDir := ["work"]
  disk.entries := [(["work"], .directory),
    (["work", "c.yaml"], .file "report_dir: junit\ncoverage_dir: pages\n")]

def layeredArgs : TestArgs where
  transcript := ⟨"t.json"⟩
  config := some ⟨"c.yaml"⟩
  reportDir := some ⟨"out"⟩

def layeredSettings : Settings where
  reportDir := ⟨"out"⟩
  coverageDir := ⟨"pages"⟩
  launchProject := some "work"

theorem loadOption_on_layeredWorld : (SettingsLayer.loadOption layeredArgs.config).on layeredWorld =
    ((fromYaml (readSettings format) "report_dir: junit\ncoverage_dir: pages\n").mapError fun reason =>
      .settings (.unreadable ⟨"c.yaml"⟩ reason), layeredWorld) := by
  have read : layeredWorld.disk.readText ⟨"c.yaml"⟩ = .ok "report_dir: junit\ncoverage_dir: pages\n" := by
    decide +kernel
  have settles : "report_dir: junit\ncoverage_dir: pages\n".toList.all Unicode.whiteSpace.contains = false := by
    rw [Unicode.whiteSpace_eq]
    decide
  rw [layeredArgs, SettingsLayer.loadOption, SettingsLayer.load_on_of_read read, SettingsLayer.ofText, settles,
    if_neg Bool.false_ne_true]

/-- The option overrides the key for the documents, the key for the pages overrides the default, and the
project is named for the working directory. -/
theorem settings_layered_overridden :
    (layeredArgs.settings.on layeredWorld).1 = .ok layeredSettings ∧
    ∃ file, IsFileRecord layeredArgs.config layeredWorld.disk file ∧
      layeredArgs.Layers file (some "work") layeredSettings := by
  have gives : (layeredArgs.settings.on layeredWorld).1 = .ok layeredSettings := by
    rw [TestArgs.settings, on_bind, loadOption_on_layeredWorld]
    decide +kernel
  refine ⟨gives, ?_⟩
  rcases settings_layered layeredArgs layeredWorld with ⟨e, -, failed⟩ | ⟨file, s, -, isRecord, layers, -, ended⟩
  · rw [failed] at gives
    cases gives
  · rw [ended] at gives
    split at gives
    · cases gives
      exact ⟨file, isRecord, layers⟩
    · cases gives

end Samples

end SpecTest
