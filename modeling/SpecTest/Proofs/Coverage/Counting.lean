import SpecTest.Proofs.Coverage.AllOrNothing

/-!
What is counted in a table of hits, and in the summary of several tables.

A table counts each location once, however often it was added, and counts it as covered by the hit that was
added last.  The order of the hits matters only among those at one location.
-/

namespace SpecTest.Coverage

open SpecTest.Data

variable {c : FileCoverage} {hits others : List Hit} {l : Location}

/-- Does the file count the locations of the hits that were added to it, and those whose last hit is one? -/
structure FileCoverage.Counts (c : FileCoverage) (added : List Hit) : Prop where
  total : c.total = (added.map (·.location)).dedup.length
  covered : c.covered =
    ((added.map (·.location)).dedup.filter fun l => (lastHit? added l).any (·.isCovered)).length

/-- Do the lists have the same hits at each location, in the same order?  Hits at different locations may be
mixed in any way. -/
def SameAtEach (hits others : List Hit) : Prop :=
  ∀ l : Location, hits.filter (·.location = l) = others.filter (·.location = l)

section Adding

theorem FileCoverage.foldl_withHits (c : FileCoverage) (calls : List (List Hit)) :
    calls.foldl withHits c = c.withHits calls.flatten := by
  induction calls generalizing c with
  | nil => rfl
  | cons hits rest ih =>
      rw [List.foldl_cons, ih, List.flatten_cons]
      simp only [withHits, List.foldl_append]

/-- The hits that a file has count like hits that are added. -/
theorem FileCoverage.withHits_eq_blank (c : FileCoverage) (hits : List Hit) :
    c.withHits hits = (blank c.file c.moduleName c.text).withHits (c.hits.toList ++ hits) := by
  have own : c.hits.toList.foldl Ascending.insert Ascending.empty = c.hits := Ascending.ofList_toList c.hits
  simp only [withHits, blank, List.foldl_append, own]

theorem lastHit?_eq_getLast? (hits : List Hit) (l : Location) :
    lastHit? hits l = (hits.filter (·.location = l)).getLast? := by
  rw [lastHit?, ← List.head?_filter, List.filter_reverse, List.head?_reverse]

theorem lastHit?_eq_some_imp {h : Hit} (last : lastHit? hits l = some h) : h ∈ hits ∧ h.location = l := by
  have located := List.find?_some last
  exact ⟨List.mem_reverse.mp (List.mem_of_find?_eq_some last), of_decide_eq_true located⟩

theorem SameAtEach.lastHit?_eq (same : SameAtEach hits others) (l : Location) :
    lastHit? hits l = lastHit? others l := by
  rw [lastHit?_eq_getLast?, lastHit?_eq_getLast?, same l]

theorem SameAtEach.swap {h k : Hit} (apart : h.location ≠ k.location) (front back : List Hit) :
    SameAtEach (front ++ h :: k :: back) (front ++ k :: h :: back) := by
  intro l
  rw [List.filter_append, List.filter_append]
  congr 1
  by_cases here : h.location = l
  · have notThere : k.location ≠ l := fun there => apart (here.trans there.symm)
    simp [here, notThere]
  · by_cases there : k.location = l <;> simp [here, there]

end Adding

section Tables

variable {added : List Hit}

/-- A table holds the last hit that was added at each location. -/
theorem mem_ofList_iff {h : Hit} :
    h ∈ (Ascending.ofList added : HitTable).toList ↔ lastHit? added h.location = some h := by
  have looked : (Ascending.ofList added : HitTable).toList.find? (·.key == h.key) =
      lastHit? added h.location := by
    rw [Ascending.ofList, Ascending.find?_foldl_insert]
    exact (Option.or_none ..).trans (find?_key_eq_lastHit? added h.location)
  rw [← looked]
  exact ⟨Ascending.find?_of_mem, List.mem_of_find?_eq_some⟩

theorem nodup_locations (table : HitTable) : (table.toList.map (·.location)).Nodup :=
  (FileCoverage.locations_sorted ⟨⟨""⟩, "", "", table⟩).imp Location.Precedes.ne

theorem length_eq_of_mem_iff {α : Type} {items members : List α} (distinct : items.Nodup)
    (others : members.Nodup) (same : ∀ a, a ∈ items ↔ a ∈ members) : items.length = members.length :=
  ((List.perm_ext_iff_of_nodup distinct others).mpr same).length_eq

theorem mem_coveredLocations_iff :
    l ∈ ((Ascending.ofList added : HitTable).toList.filter (·.isCovered)).map (·.location) ↔
      l ∈ (added.map (·.location)).dedup.filter fun l => (lastHit? added l).any (·.isCovered) := by
  rw [List.mem_map, List.mem_filter, List.mem_dedup, List.mem_map]
  constructor
  · rintro ⟨h, kept, rfl⟩
    obtain ⟨inTable, covered⟩ := List.mem_filter.mp kept
    have last := mem_ofList_iff.mp inTable
    exact ⟨⟨h, (lastHit?_eq_some_imp last).1, rfl⟩, by rw [last]; exact covered⟩
  · rintro ⟨-, covered⟩
    obtain ⟨h, last, isCovered⟩ := (Option.any_eq_true ..).mp covered
    obtain ⟨-, rfl⟩ := lastHit?_eq_some_imp last
    exact ⟨h, List.mem_filter.mpr ⟨mem_ofList_iff.mpr last, isCovered⟩, rfl⟩

theorem counts_blank (file : Path) (moduleName text : String) (added : List Hit) :
    ((FileCoverage.blank file moduleName text).withHits added).Counts added where
  total := by
    have located := length_eq_of_mem_iff (nodup_locations (Ascending.ofList added))
      (List.nodup_dedup (added.map (·.location))) fun l => by rw [mem_locations_ofList, List.mem_dedup]
    rwa [List.length_map] at located
  covered := by
    have located := length_eq_of_mem_iff
      ((nodup_locations (Ascending.ofList added)).sublist (List.filter_sublist.map _))
      ((List.nodup_dedup (added.map (·.location))).filter _) fun l => mem_coveredLocations_iff
    rwa [List.length_map] at located

end Tables

section Summaries

theorem FileCoverage.covered_le_total (c : FileCoverage) : c.covered ≤ c.total := List.length_filter_le _ _

theorem ofFiles_append (files others : List FileCoverage) : CoverageSummary.ofFiles (files ++ others) =
    ⟨(CoverageSummary.ofFiles files).files ++ (CoverageSummary.ofFiles others).files,
      (CoverageSummary.ofFiles files).covered + (CoverageSummary.ofFiles others).covered,
      (CoverageSummary.ofFiles files).total + (CoverageSummary.ofFiles others).total⟩ := by
  simp only [CoverageSummary.ofFiles, List.map_append, sumOf_append]

theorem ofFiles_covered_le_total (files : List FileCoverage) :
    (CoverageSummary.ofFiles files).covered ≤ (CoverageSummary.ofFiles files).total := by
  rw [CoverageSummary.ofFiles, List.map_map, List.map_map]
  exact sumOf_map_le fun c _ => c.covered_le_total

end Summaries

/-- After any calls that add hits, a file counts each location once, and as covered by the last hit that was
added at it, so that hits at different locations may come in any order.  No row and no summary counts more
covered locations than locations, the summary of two lists of files is made of their rows and sums, and it is
empty exactly where no file has a location. -/
theorem hits_counted :
    (∀ (c : FileCoverage) (calls : List (List Hit)),
      (calls.foldl FileCoverage.withHits c).Counts (c.hits.toList ++ calls.flatten)) ∧
    (∀ (c : FileCoverage) (calls others : List (List Hit)), SameAtEach calls.flatten others.flatten →
      calls.foldl FileCoverage.withHits c = others.foldl FileCoverage.withHits c) ∧
    (∀ files, (∀ row ∈ (CoverageSummary.ofFiles files).files, row.covered ≤ row.total) ∧
      (CoverageSummary.ofFiles files).covered ≤ (CoverageSummary.ofFiles files).total ∧
      ((CoverageSummary.ofFiles files).isEmpty = true ↔ ∀ c ∈ files, c.locations = [])) ∧
    ∀ files others, CoverageSummary.ofFiles (files ++ others) =
      ⟨(CoverageSummary.ofFiles files).files ++ (CoverageSummary.ofFiles others).files,
        (CoverageSummary.ofFiles files).covered + (CoverageSummary.ofFiles others).covered,
        (CoverageSummary.ofFiles files).total + (CoverageSummary.ofFiles others).total⟩ := by
  refine ⟨fun c calls => ?_, fun c calls others same => ?_, fun files => ⟨?_, ?_, isEmpty_ofFiles_iff⟩,
    ofFiles_append⟩
  · rw [FileCoverage.foldl_withHits, FileCoverage.withHits_eq_blank]
    exact counts_blank c.file c.moduleName c.text _
  · rw [FileCoverage.foldl_withHits, FileCoverage.foldl_withHits]
    exact FileCoverage.withHits_eq same.lastHit?_eq
  · exact List.forall_mem_map.mpr fun c _ => c.covered_le_total
  · exact ofFiles_covered_le_total files

section Samples

def pushHit (count : UInt64) : Hit := ⟨.ofNumbers 1 1 1 5, count⟩

def popHit : Hit := ⟨.ofNumbers 1 6 1 9, 1⟩

def stackFile : FileCoverage := .blank ⟨"stack.vdmsl"⟩ "Stack" "push pop"

/-- The hit of another location may come in front of the hits of one, which keep their order. -/
theorem hits_counted_reordered :
    SameAtEach [[pushHit 3, popHit], [pushHit 0]].flatten [[popHit], [pushHit 3, pushHit 0]].flatten ∧
    [[pushHit 3, popHit], [pushHit 0]].foldl FileCoverage.withHits stackFile =
      [[popHit], [pushHit 3, pushHit 0]].foldl FileCoverage.withHits stackFile := by
  have same : SameAtEach [pushHit 3, popHit, pushHit 0] [popHit, pushHit 3, pushHit 0] :=
    SameAtEach.swap (by decide) [] [pushHit 0]
  exact ⟨same, hits_counted.2.1 stackFile _ _ same⟩

end Samples

end SpecTest.Coverage
