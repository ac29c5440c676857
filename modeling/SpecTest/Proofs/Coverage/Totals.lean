import Mathlib.Data.List.Dedup
import SpecTest.Proofs.Coverage.Recording
import SpecTest.Proofs.Data.Sums
import SpecTest.Session

/-!
How often the totals of the coverage count a location.

The totals are sums over rows, and a file has a row for every time that a module lists it.  They count
each location of each file once only where no such file is listed again.
-/

namespace SpecTest.Coverage

open SpecTest.Data SpecTest.Task

variable {files : List FileCoverage}

/-- The locations of a file, each with the file; spellings of one path are one file. -/
def FileCoverage.places (c : FileCoverage) : List (List PathPart × Location) :=
  c.hits.toList.map fun h => (c.file.parts, h.location)

def FileCoverage.coveredPlaces (c : FileCoverage) : List (List PathPart × Location) :=
  (c.hits.toList.filter (·.isCovered)).map fun h => (c.file.parts, h.location)

def places (files : List FileCoverage) : List (List PathPart × Location) :=
  files.flatMap (·.places)

def coveredPlaces (files : List FileCoverage) : List (List PathPart × Location) :=
  files.flatMap (·.coveredPlaces)

/-- Does the summary count the locations of the files, and the covered ones of them, once each? -/
structure CoverageSummary.CountsOnce (summary : CoverageSummary) (files : List FileCoverage) : Prop where
  total : summary.total = (places files).dedup.length
  covered : summary.covered = (coveredPlaces files).dedup.length

section Sums

theorem ofFiles_total (files : List FileCoverage) :
    (CoverageSummary.ofFiles files).total = (places files).length := by
  change sumOf ((files.map (·.stats)).map (·.total)) = _
  rw [places, length_flatMap_eq_sumOf, List.map_map]
  refine congrArg sumOf (List.map_congr_left fun c _ => ?_)
  exact (List.length_map _).symm

theorem ofFiles_covered (files : List FileCoverage) :
    (CoverageSummary.ofFiles files).covered = (coveredPlaces files).length := by
  change sumOf ((files.map (·.stats)).map (·.covered)) = _
  rw [coveredPlaces, length_flatMap_eq_sumOf, List.map_map]
  refine congrArg sumOf (List.map_congr_left fun c _ => ?_)
  exact (List.length_map _).symm

theorem length_dedup_iff {α : Type} [DecidableEq α] {items : List α} :
    items.length = items.dedup.length ↔ items.Nodup := by
  rw [← List.dedup_eq_self]
  constructor
  · intro same
    exact (List.dedup_sublist items).eq_of_length same.symm
  · intro same
    rw [same]

theorem coveredPlaces_sublist (files : List FileCoverage) :
    (coveredPlaces files).Sublist (places files) := by
  induction files with
  | nil => exact .slnil
  | cons c rest ih =>
      rw [coveredPlaces, places, List.flatMap_cons, List.flatMap_cons]
      exact (List.filter_sublist.map _).append ih

/-- Where the locations are counted once, so are the covered ones among them. -/
theorem countsOnce_iff_nodup :
    (CoverageSummary.ofFiles files).CountsOnce files ↔ (places files).Nodup := by
  constructor
  · intro once
    exact length_dedup_iff.mp ((ofFiles_total files).symm.trans once.total)
  · intro distinct
    refine ⟨(ofFiles_total files).trans (length_dedup_iff.mpr distinct), ?_⟩
    exact (ofFiles_covered files).trans
      (length_dedup_iff.mpr (distinct.sublist (coveredPlaces_sublist files)))

end Sums

section Sharing

variable {c other : FileCoverage}

theorem FileCoverage.places_nodup (c : FileCoverage) : c.places.Nodup := by
  refine List.pairwise_map.mpr (c.hits.ascending.imp fun {h later} less same => ?_)
  have sameKey : h.key = later.key := congrArg Location.key (Prod.mk.inj same).2
  omega

/-- Do the files have no location in common, or are they different files? -/
def FileCoverage.Apart (c other : FileCoverage) : Prop :=
  c.file.same other.file = true →
    ∀ h ∈ c.hits.toList, ∀ later ∈ other.hits.toList, h.location ≠ later.location

theorem FileCoverage.disjoint_places_iff : c.places.Disjoint other.places ↔ c.Apart other := by
  simp only [Apart, Path.same, beq_iff_eq]
  constructor
  · intro disjoint sameFile h listed later listedToo sameLocation
    have here : (c.file.parts, h.location) ∈ c.places := List.mem_map_of_mem listed
    have there : (other.file.parts, later.location) ∈ other.places := List.mem_map_of_mem listedToo
    rw [← sameFile, ← sameLocation] at there
    exact disjoint here there
  · intro apart place here there
    obtain ⟨h, listed, rfl⟩ := List.mem_map.mp here
    obtain ⟨later, listedToo, same⟩ := List.mem_map.mp there
    obtain ⟨sameFile, sameLocation⟩ := Prod.mk.inj same
    exact apart sameFile.symm h listed later listedToo sameLocation.symm

theorem countsOnce_iff_apart :
    (CoverageSummary.ofFiles files).CountsOnce files ↔ files.Pairwise FileCoverage.Apart := by
  rw [countsOnce_iff_nodup, places, List.nodup_flatMap]
  constructor
  · intro distinct
    exact distinct.2.imp fun disjoint => FileCoverage.disjoint_places_iff.mp disjoint
  · intro apart
    exact ⟨fun c _ => c.places_nodup, apart.imp fun both => FileCoverage.disjoint_places_iff.mpr both⟩

end Sharing

section Tables

variable {w w' : World} {r : Recorder} {source : Source (StateM World)} {modules : List ModuleInfo}
  {table : Path → List Hit}

/-- Are the hits that the source gives those of a table, which knows a file by any spelling? -/
structure Source.Records (source : Source (StateM World)) (table : Path → List Hit) : Prop where
  gives : ∀ file w hits w', (source.hits file).on w = (.ok hits, w') → hits = table file
  spelling : ∀ file other : Path, file.same other = true → table file = table other

theorem insertBy_ne_nil {α : Type} (key : α → Int) (a : α) (members : List α) :
    insertBy key a members ≠ [] := by
  cases members with
  | nil => simp [insertBy]
  | cons b rest =>
      simp only [insertBy]
      split
      · simp
      · split <;> simp

theorem ofList_toList_eq_nil_iff {hits : List Hit} :
    (Ascending.ofList hits : HitTable).toList = [] ↔ hits = [] := by
  constructor
  · intro blank
    rcases List.eq_nil_or_concat hits with none | ⟨before, h, rfl⟩
    · exact none
    · rw [Ascending.ofList, List.concat_eq_append, List.foldl_append] at blank
      exact absurd blank (insertBy_ne_nil _ _ _)
  · intro blank
    rw [blank]
    rfl

theorem collect_hits (records : source.Records table)
    (done : (r.collect source modules).on w = (.ok files, w')) :
    ∀ c ∈ files, c.hits = Ascending.ofList (table c.file) := by
  rw [Recorder.collect] at done
  generalize r.files modules = wanted at done
  induction wanted generalizing w files with
  | nil =>
      cases done
      simp
  | cons file wanted ih =>
      rw [List.mapM_cons] at done
      obtain ⟨first, v, one, rest⟩ := bind_on_eq_ok_iff.mp done
      obtain ⟨others, v', later, all⟩ := bind_on_eq_ok_iff.mp rest
      obtain ⟨text, v₁, -, texted⟩ := bind_on_eq_ok_iff.mp one
      obtain ⟨hits, v₂, given, counted⟩ := bind_on_eq_ok_iff.mp texted
      cases all
      cases counted
      rw [List.forall_mem_cons]
      refine ⟨?_, ih later⟩
      rw [records.gives _ _ _ _ given]
      rfl

theorem FileCoverage.apart_iff_of_records (records : source.Records table) {c other : FileCoverage}
    (hits : c.hits = Ascending.ofList (table c.file))
    (otherHits : other.hits = Ascending.ofList (table other.file)) :
    c.Apart other ↔ (c.file.same other.file = true → table c.file = []) := by
  refine forall_congr' fun same => ?_
  rw [hits, otherHits, ← records.spelling _ _ same, ← ofList_toList_eq_nil_iff]
  constructor
  · intro apart
    refine List.eq_nil_iff_forall_not_mem.mpr fun h listed => ?_
    exact apart h listed h listed rfl
  · intro blank
    simp [blank]

theorem source_records (script : Script) : script.source.Records script.hits where
  gives file w hits w' given := by
    cases given
    rfl
  spelling file other same := by
    have sameParts : file.parts = other.parts := eq_of_beq same
    simp only [Script.hits, Script.fileHits?, Path.same, sameParts]

/-- The summary that is recorded counts every location of every file once exactly where no two listings
of one file have a location in common.  For a source with a table of hits that is where no file that
is listed twice has any hits. -/
theorem record_countsOnce_iff {summary : CoverageSummary}
    (done : (r.record source modules).on w = (.ok (some summary), w')) :
    ∃ files v, (r.collect source modules).on w = (.ok files, v) ∧
      files.map (fun f => (f.moduleName, f.file)) = r.files modules ∧
      (summary.CountsOnce files ↔ files.Pairwise FileCoverage.Apart) ∧
      ∀ table, source.Records table →
        (summary.CountsOnce files ↔ (r.files modules).Pairwise fun listed again =>
          listed.2.same again.2 = true → table listed.2 = []) := by
  obtain ⟨files, v, written, collected, -, recorded, -⟩ := record_on_eq_ok done
  obtain ⟨rfl, -⟩ := recorded summary rfl
  have listings := collect_on_eq_ok collected
  refine ⟨files, v, collected, listings, countsOnce_iff_apart, fun table records => ?_⟩
  have hits := collect_hits records collected
  rw [countsOnce_iff_apart, ← listings, List.pairwise_map]
  exact List.Pairwise.iff_of_mem fun {c other} first second =>
    FileCoverage.apart_iff_of_records records (hits c first) (hits other second)

end Tables

section Samples

/-- Two modules in files of their own, one of which is written in two ways. -/
def apartScript : Script where
  transcript.modules := [⟨"Queue", [⟨"queue"⟩], []⟩, ⟨"Stack", [⟨"./stack"⟩], []⟩]
  transcript.coverage := [⟨⟨"queue"⟩, some "queue", [⟨.ofNumbers 1 1 1 2, 1⟩]⟩,
    ⟨⟨"stack"⟩, some "stack", [⟨.ofNumbers 1 1 1 2, 1⟩]⟩]
  baseDir := ⟨""⟩

theorem apartScript_countsOnce_iff :
    ∃ summary w', (nameRecorder.record apartScript.source apartScript.modules).on {} =
        (.ok (some summary), w') ∧
    ∃ files v, (nameRecorder.collect apartScript.source apartScript.modules).on {} = (.ok files, v) ∧
      files.map (fun f => (f.moduleName, f.file)) = nameRecorder.files apartScript.modules ∧
      (summary.CountsOnce files ↔ files.Pairwise FileCoverage.Apart) ∧
      (summary.CountsOnce files ↔
        (nameRecorder.files apartScript.modules).Pairwise fun listed again =>
          listed.2.same again.2 = true → apartScript.hits listed.2 = []) := by
  have gives : ((nameRecorder.record apartScript.source apartScript.modules).on {}).1 =
      .ok (some (.ofFiles [nameCoverage "Queue" "queue", nameCoverage "Stack" "stack"])) := by
    decide +kernel
  obtain ⟨files, v, collected, listings, apart, tables⟩ := record_countsOnce_iff (on_of_fst gives)
  exact ⟨_, _, on_of_fst gives, files, v, collected, listings, apart,
    tables _ (source_records apartScript)⟩

def sharedModules : List ModuleInfo := [⟨"Queue", [⟨"stack"⟩], []⟩, ⟨"Stack", [⟨"stack"⟩], []⟩]

def sharedFiles : List FileCoverage := [nameCoverage "Queue" "stack", nameCoverage "Stack" "stack"]

/-- The only location of a file is counted twice because two modules are in that file. -/
theorem record_not_countsOnce :
    ¬ ∀ (r : Recorder) (source : Source (StateM World)) (modules : List ModuleInfo) (w w' v : World)
        (files : List FileCoverage) (summary : CoverageSummary),
      (modules.map (·.name)).Nodup → (r.collect source modules).on w = (.ok files, v) →
      (r.record source modules).on w = (.ok (some summary), w') →
      summary.CountsOnce files := by
  intro allOnce
  have collected : (nameRecorder.collect nameSource sharedModules).on {} = (.ok sharedFiles, {}) := rfl
  have gives : ((nameRecorder.record nameSource sharedModules).on {}).1 =
      .ok (some (.ofFiles sharedFiles)) := by decide +kernel
  have once := allOnce _ _ _ _ _ _ _ _ (by decide) collected (on_of_fst gives)
  exact absurd once.total (by decide +kernel)

end Samples

end SpecTest.Coverage
