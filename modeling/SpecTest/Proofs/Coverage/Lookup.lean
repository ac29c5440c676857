import SpecTest.Proofs.Coverage.Totals
import SpecTest.Proofs.Data.Keys

/-!
Which recorded locations of a file are found again.

The coverage of a transcript is a list of entries, and several of them may be about one file.  A file is
looked up at its first entry, so what the later ones record is found only where the first repeats it.
-/

namespace SpecTest

open SpecTest.Coverage SpecTest.Data SpecTest.Task

section Keys

theorem Position.key_inj {p q : Position} (same : p.key = q.key) : p = q := by
  obtain ⟨pLine, pCol⟩ := p
  obtain ⟨qLine, qCol⟩ := q
  have pBelow := pCol.toNat_lt_size
  have qBelow := qCol.toNat_lt_size
  simp only [Position.key, UInt32.size] at same pBelow qBelow
  obtain ⟨lines, cols⟩ : pLine.toNat = qLine.toNat ∧ pCol.toNat = qCol.toNat := by omega
  rw [UInt32.toNat_inj.mp lines, UInt32.toNat_inj.mp cols]

theorem Position.key_lt (p : Position) : p.key < UInt64.size := by
  have line := p.line.toNat_lt_size
  have col := p.col.toNat_lt_size
  simp only [UInt32.size] at line col
  simp only [Position.key, UInt32.size, UInt64.size]
  omega

theorem Location.key_injective : Function.Injective Location.key := by
  intro l other same
  obtain ⟨start, finish⟩ := l
  obtain ⟨otherStart, otherFinish⟩ := other
  have below := finish.key_lt
  have otherBelow := otherFinish.key_lt
  simp only [Location.key, UInt64.size] at same below otherBelow
  obtain ⟨starts, finishes⟩ : start.key = otherStart.key ∧ finish.key = otherFinish.key := by omega
  rw [Position.key_inj starts, Position.key_inj finishes]

theorem mem_keys_iff {hits : List Hit} {l : Location} :
    l.key ∈ hits.map Hit.key ↔ l ∈ hits.map (·.location) := by
  have keys : hits.map Hit.key = (hits.map (·.location)).map Location.key := by
    rw [List.map_map]
    rfl
  rw [keys, List.mem_map_of_injective Location.key_injective]

/-- A table made from hits has their locations, though it keeps only one hit for each of them. -/
theorem mem_locations_ofList {hits : List Hit} {l : Location} :
    l ∈ (Ascending.ofList hits : HitTable).toList.map (·.location) ↔ l ∈ hits.map (·.location) := by
  rw [← mem_keys_iff, ← mem_keys_iff]
  exact Ascending.mem_keys_ofList

end Keys

namespace Script

variable {script : Script} {file : Path}

/-- All that was recorded about a file, under whichever spelling of its path. -/
def entriesFor (s : Script) (file : Path) : List FileHits :=
  s.transcript.coverage.filter fun h => (s.resolve h.file).same file

/-- Is every location that was recorded for the file among those of the hits? -/
def Keeps (s : Script) (file : Path) (hits : List Hit) : Prop :=
  ∀ entry ∈ s.entriesFor file, ∀ h ∈ entry.hits, h.location ∈ hits.map (·.location)

/-- Do the later entries for a file record no location that its first entry lacks? -/
def RecordedFirst (s : Script) (file : Path) : Prop :=
  ∀ first later, s.entriesFor file = first :: later →
    ∀ entry ∈ later, ∀ h ∈ entry.hits, h.location ∈ first.hits.map (·.location)

theorem fileHits?_eq (s : Script) (file : Path) : s.fileHits? file = (s.entriesFor file).head? := by
  rw [fileHits?, entriesFor, List.head?_filter]

theorem keeps_hits_iff : script.Keeps file (script.hits file) ↔ script.RecordedFirst file := by
  rw [Keeps, RecordedFirst, hits, fileHits?_eq]
  cases script.entriesFor file with
  | nil => simp
  | cons first later =>
      rw [List.forall_mem_cons]
      constructor
      · intro kept _ _ same
        cases same
        exact kept.2
      · intro recorded
        exact ⟨fun h listed => List.mem_map_of_mem listed, recorded first later rfl⟩

theorem keeps_congr {hits others : List Hit}
    (same : ∀ l, l ∈ hits.map (·.location) ↔ l ∈ others.map (·.location)) :
    script.Keeps file hits ↔ script.Keeps file others := by
  simp only [Keeps, same]

/-- The lookup of a file gives all locations that were recorded for it exactly where its first entry has
them all, and the coverage that is collected for the file has the locations that the lookup gives. -/
theorem keeps_iff_recordedFirst (script : Script) :
    (∀ file, script.Keeps file (script.hits file) ↔ script.RecordedFirst file) ∧
      ∀ (r : Recorder) (w w' : World) (files : List FileCoverage),
        (r.collect script.source script.modules).on w = (.ok files, w') →
        files.map (fun c => (c.moduleName, c.file)) = r.files script.modules ∧
          ∀ c ∈ files, (script.Keeps c.file c.hits.toList ↔ script.RecordedFirst c.file) := by
  refine ⟨fun file => keeps_hits_iff, fun r w w' files done => ⟨collect_on_eq_ok done, ?_⟩⟩
  intro c listed
  rw [collect_hits (source_records script) done c listed, ← keeps_hits_iff]
  exact keeps_congr fun l => mem_locations_ofList

section Samples

theorem apartScript_keeps_iff :
    ∃ files w', (nameRecorder.collect apartScript.source apartScript.modules).on {} = (.ok files, w') ∧
      files.map (fun c => (c.moduleName, c.file)) = nameRecorder.files apartScript.modules ∧
      ∀ c ∈ files, (apartScript.Keeps c.file c.hits.toList ↔ apartScript.RecordedFirst c.file) := by
  have collected : (nameRecorder.collect apartScript.source apartScript.modules).on {} =
      (.ok [nameCoverage "Queue" "queue", nameCoverage "Stack" "stack"], {}) := by rfl
  exact ⟨_, _, collected, (keeps_iff_recordedFirst apartScript).2 _ _ _ _ collected⟩

/-- Two entries for the file of a module, each with a location of its own. -/
def splitScript : Script where
  transcript.modules := [⟨"Stack", [⟨"stack.vdmsl"⟩], []⟩]
  transcript.coverage := [⟨⟨"stack.vdmsl"⟩, some "push pop", [⟨.ofNumbers 1 1 1 5, 1⟩]⟩,
    ⟨⟨"./stack.vdmsl"⟩, none, [⟨.ofNumbers 1 6 1 9, 0⟩]⟩]
  baseDir := ⟨""⟩

/-- Of two entries for one file, the hits of the second are lost. -/
theorem splitScript_not_keeps :
    ¬ ∀ script : Script, script.transcript.validate = .ok () →
      ∀ info ∈ script.modules, ∀ file ∈ info.files, script.Keeps file (script.hits file) := by
  intro allKept
  have kept := allKept splitScript (by decide) ⟨"Stack", [⟨"stack.vdmsl"⟩], []⟩ (by decide)
    ⟨"stack.vdmsl"⟩ List.mem_cons_self
  have second := kept ⟨⟨"./stack.vdmsl"⟩, none, [⟨.ofNumbers 1 6 1 9, 0⟩]⟩ (by decide)
    ⟨.ofNumbers 1 6 1 9, 0⟩ List.mem_cons_self
  exact absurd second (by decide)

end Samples

end Script

end SpecTest
