import Mathlib.Data.List.Forall2
import SpecTest.Proofs.Path.Directory
import SpecTest.Session

/-!
Transcripts and settings with other spellings of their paths.

Paths are made normal before they are compared, wherever they come from.  So it makes no difference how the
directory of a transcript, the files in it and the source directories of the settings are spelled: the same
modules are seen, with the same tests, the same hits and the same coverage.
-/

namespace SpecTest

open SpecTest.Coverage

section Lists

variable {α β : Type} {R : α → β → Prop} {xs : List α} {ys : List β}

theorem map_eq_map_of_forall₂ {γ : Type} {f : α → γ} {g : β → γ} (related : List.Forall₂ R xs ys)
    (same : ∀ a b, R a b → f a = g b) : xs.map f = ys.map g := by
  induction related with
  | nil => rfl
  | cons first _ ih => rw [List.map_cons, List.map_cons, same _ _ first, ih]

theorem find?_of_forall₂ {p : α → Bool} {q : β → Bool} (related : List.Forall₂ R xs ys)
    (same : ∀ a b, R a b → p a = q b) : Option.Rel R (xs.find? p) (ys.find? q) := by
  induction related with
  | nil => exact .none
  | @cons a b _ _ first _ ih =>
      cases found : p a with
      | true =>
          rw [List.find?_cons_of_pos found, List.find?_cons_of_pos (same a b first ▸ found)]
          exact .some first
      | false =>
          have notHere : ¬ q b = true := by rw [← same a b first, found]; exact Bool.false_ne_true
          rw [List.find?_cons_of_neg (by simp [found]), List.find?_cons_of_neg notHere]
          exact ih

theorem eq_of_rel {γ : Type} {x : Option α} {y : Option β} {f : Option α → γ} {g : Option β → γ}
    (related : Option.Rel R x y) (atNone : f none = g none)
    (same : ∀ a b, R a b → f (some a) = g (some b)) : f x = g y := by
  cases related with
  | none => exact atNone
  | some both => exact same _ _ both

end Lists

section Spellings

structure ScriptedModule.Respelled (m m' : ScriptedModule) : Prop where
  name : m.name = m'.name
  files : List.Forall₂ Path.Respelled m.files m'.files
  operations : m.operations = m'.operations

structure FileHits.Respelled (h h' : FileHits) : Prop where
  file : h.file.Respelled h'.file
  text : h.text = h'.text
  hits : h.hits = h'.hits

/-- Do the transcripts differ in the spellings of their paths only? -/
structure Transcript.Respelled (t t' : Transcript) : Prop where
  dialect : t.dialect = t'.dialect
  parseErrors : t.parseErrors = t'.parseErrors
  typeErrors : t.typeErrors = t'.typeErrors
  modules : List.Forall₂ ScriptedModule.Respelled t.modules t'.modules
  coverage : List.Forall₂ FileHits.Respelled t.coverage t'.coverage

structure Script.Respelled (s s' : Script) : Prop where
  transcript : s.transcript.Respelled s'.transcript
  baseDir : s.baseDir.Respelled s'.baseDir

/-- Do the settings differ in the spellings of their source directories only? -/
structure Settings.Respelled (c c' : Settings) : Prop where
  testSourceDir : Option.Rel Path.Respelled c.testSourceDir c'.testSourceDir
  coverageSourceDir : Option.Rel Path.Respelled c.coverageSourceDir c'.coverageSourceDir
  others : c' = { c with testSourceDir := c'.testSourceDir, coverageSourceDir := c'.coverageSourceDir }

end Spellings

section Scripts

variable {s s' : Script}

theorem Script.Respelled.resolve {file file' : Path} (scripts : s.Respelled s')
    (files : file.Respelled file') : s.resolve file = s'.resolve file' :=
  scripts.baseDir.normalize_join files

theorem Script.Respelled.modules (scripts : s.Respelled s') : s.modules = s'.modules := by
  refine map_eq_map_of_forall₂ scripts.transcript.modules fun m m' same => ?_
  have files : m.files.map s.resolve = m'.files.map s'.resolve :=
    map_eq_map_of_forall₂ same.files fun _ _ spelled => scripts.resolve spelled
  rw [same.name, files, same.operations]

theorem Script.Respelled.fileHits? (scripts : s.Respelled s') (file : Path) :
    Option.Rel FileHits.Respelled (s.fileHits? file) (s'.fileHits? file) := by
  refine find?_of_forall₂ scripts.transcript.coverage fun h h' same => ?_
  rw [scripts.resolve same.file]

theorem Script.Respelled.hits (scripts : s.Respelled s') (file : Path) : s.hits file = s'.hits file :=
  have found := scripts.fileHits? file
  eq_of_rel (f := fun h => (h.map FileHits.hits).getD []) (g := fun h => (h.map FileHits.hits).getD [])
    found rfl fun _ _ same => same.hits

theorem Script.Respelled.text? (scripts : s.Respelled s') (file : Path) : s.text? file = s'.text? file :=
  have found := scripts.fileHits? file
  eq_of_rel (f := fun h => h.bind FileHits.text) (g := fun h => h.bind FileHits.text)
    found rfl fun _ _ same => same.text

theorem Script.Respelled.source {m : Type → Type} [Monad m] [Host m] (scripts : s.Respelled s') :
    (s.source : Source m) = s'.source := by
  simp only [Script.source, scripts.hits, scripts.text?]

end Scripts

section Settings

variable {c c' : Settings}

theorem normalize_eq_of_rel {dir dir' : Option Path} (same : Option.Rel Path.Respelled dir dir') :
    dir.map Path.normalize = dir'.map Path.normalize :=
  eq_of_rel same rfl fun _ _ spelled => congrArg some spelled.normalize

theorem Settings.selector_eq (c : Settings) :
    c.selector = (({ moduleStart := c.moduleStart } : Selector).withPattern c.operationPattern).map fun s =>
      { s with sourceDir := (c.testSourceDir.map Path.normalize).or s.sourceDir } := by
  rw [Settings.selector]
  cases ({ moduleStart := c.moduleStart } : Selector).withPattern c.operationPattern with
  | error reason => rfl
  | ok s => cases c.testSourceDir <;> rfl

theorem Settings.Respelled.selector (settings : c.Respelled c') : c.selector = c'.selector := by
  rw [Settings.selector_eq, Settings.selector_eq, normalize_eq_of_rel settings.testSourceDir, settings.others]

theorem Settings.recorder?_eq (c : Settings) :
    c.recorder? = if c.recordCoverage then some ⟨c.coverageSourceDir.map Path.normalize, c.coverageDir⟩
      else none := by
  rw [Settings.recorder?]
  cases c.coverageSourceDir <;> rfl

theorem Settings.Respelled.recorder? (settings : c.Respelled c') : c.recorder? = c'.recorder? := by
  rw [Settings.recorder?_eq, Settings.recorder?_eq, normalize_eq_of_rel settings.coverageSourceDir,
    settings.others]

end Settings

/-- Is the same seen with both transcripts and settings: modules and their files, suites, hits, and the modules
that the coverage is collected for, with what is collected? -/
structure SeesSame (s s' : Script) (c c' : Settings) : Prop where
  modules : s.modules = s'.modules
  suites : c.selector.map (·.discover s.modules) = c'.selector.map (·.discover s'.modules)
  hits : ∀ info ∈ s.modules, ∀ file ∈ info.files, s.hits file = s'.hits file
  included : c.recorder?.map (fun r => s.modules.filter r.includes) =
    c'.recorder?.map (fun r => s'.modules.filter r.includes)
  collected : ∀ {m : Type → Type} [Monad m] [Host m],
    (c.recorder?.map fun r => (r.collect s.source s.modules : Task m _)) =
      c'.recorder?.map fun r => r.collect s'.source s'.modules

/-- It does not matter how the paths of a transcript and of settings are spelled, nor the path of the transcript
itself, in whose directory the others are seen. -/
theorem respelled_seesSame {t t' : Transcript} {c c' : Settings} (transcripts : t.Respelled t')
    (settings : c.Respelled c') :
    (∀ base base' : Path, base.Respelled base' → SeesSame ⟨t, base⟩ ⟨t', base'⟩ c c') ∧
    ∀ file file' : Path, file.Respelled file' →
      SeesSame ⟨t, file.directory⟩ ⟨t', file'.directory⟩ c c' := by
  have anywhere (base base' : Path) (bases : base.Respelled base') :
      SeesSame ⟨t, base⟩ ⟨t', base'⟩ c c' := by
    have scripts : Script.Respelled ⟨t, base⟩ ⟨t', base'⟩ := ⟨transcripts, bases⟩
    refine ⟨scripts.modules, ?_, fun _ _ file _ => scripts.hits file, ?_, ?_⟩
    · rw [settings.selector, scripts.modules]
    · rw [settings.recorder?, scripts.modules]
    · intro m _ _
      rw [settings.recorder?, scripts.modules, scripts.source]
  exact ⟨anywhere, fun file file' files => anywhere _ _ files.directory⟩

section Samples

/-- A module in a file that is spelled in one way, with coverage for it that is spelled in another. -/
def spelledTranscript (file recorded : Path) : Transcript where
  modules := [⟨"TestStack", [file], [⟨"TestPush", 0, .returned⟩]⟩]
  coverage := [⟨recorded, some "push", [⟨.ofNumbers 1 1 1 2, 1⟩]⟩]

def spelledSettings (testDir coverageDir : Path) : Settings where
  testSourceDir := some testDir
  coverageSourceDir := some coverageDir
  recordCoverage := true

theorem respelled_seesSame_otherPaths :
    (spelledTranscript ⟨"src/test/stack.vdmsl"⟩ ⟨"./src/test/stack.vdmsl"⟩).Respelled
      (spelledTranscript ⟨"src//test/./stack.vdmsl/"⟩ ⟨"src/test//stack.vdmsl"⟩) ∧
    (spelledSettings ⟨"spec/src/test"⟩ ⟨"spec/src/"⟩).Respelled
      (spelledSettings ⟨"./spec//src/test/"⟩ ⟨"spec/./src"⟩) ∧
    Path.Respelled ⟨"spec/t.json"⟩ ⟨".//spec/./t.json"⟩ ∧
    SeesSame ⟨spelledTranscript ⟨"src/test/stack.vdmsl"⟩ ⟨"./src/test/stack.vdmsl"⟩, ⟨"spec"⟩⟩
      ⟨spelledTranscript ⟨"src//test/./stack.vdmsl/"⟩ ⟨"src/test//stack.vdmsl"⟩, ⟨".//spec"⟩⟩
      (spelledSettings ⟨"spec/src/test"⟩ ⟨"spec/src/"⟩)
      (spelledSettings ⟨"./spec//src/test/"⟩ ⟨"spec/./src"⟩) := by
  have transcripts : (spelledTranscript ⟨"src/test/stack.vdmsl"⟩ ⟨"./src/test/stack.vdmsl"⟩).Respelled
      (spelledTranscript ⟨"src//test/./stack.vdmsl/"⟩ ⟨"src/test//stack.vdmsl"⟩) := by
    refine ⟨rfl, rfl, rfl, .cons ⟨rfl, .cons ?_ .nil, rfl⟩ .nil, .cons ⟨?_, rfl, rfl⟩ .nil⟩ <;>
      decide +kernel
  have settings : (spelledSettings ⟨"spec/src/test"⟩ ⟨"spec/src/"⟩).Respelled
      (spelledSettings ⟨"./spec//src/test/"⟩ ⟨"spec/./src"⟩) := by
    refine ⟨.some ?_, .some ?_, rfl⟩ <;> decide +kernel
  have files : Path.Respelled ⟨"spec/t.json"⟩ ⟨".//spec/./t.json"⟩ := by decide +kernel
  exact ⟨transcripts, settings, files, (respelled_seesSame transcripts settings).2 _ _ files⟩

end Samples

end SpecTest
