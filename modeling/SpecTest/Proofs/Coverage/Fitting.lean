import Mathlib.Data.List.Chain
import SpecTest.Proofs.Coverage.Bytes
import SpecTest.Proofs.Coverage.Lookup

/-!
Which locations a page can mark, and which one it refuses.

The locations are taken in their order.  Each has to start at the end of the one before it or later, and has
to lie in the text.  The first one that does not is refused: as an overlap where it starts too early, and
else as lying outside the text.  The place where the first one may start is not the end of a location, so
that one is refused as an overlap though nothing is before it.
-/

namespace SpecTest

open SpecTest.Coverage SpecTest.Data

section Positions

theorem Position.before_iff_key {p q : Position} : p.before q = true ↔ p.key < q.key := by
  have pBelow := p.col.toNat_lt_size
  have qBelow := q.col.toNat_lt_size
  simp only [before, key, UInt32.size, Bool.or_eq_true, Bool.and_eq_true, decide_eq_true_eq, beq_iff_eq,
    UInt32.lt_iff_toNat_lt, ← UInt32.toNat_inj] at pBelow qBelow ⊢
  omega

/-- The order of locations: by their starts, and by their ends for one start. -/
def Location.Precedes (l other : Location) : Prop :=
  l.start.before other.start = true ∨ l.start = other.start ∧ l.finish.before other.finish = true

theorem Location.precedes_iff_key {l other : Location} : l.Precedes other ↔ l.key < other.key := by
  have below := l.finish.key_lt
  have otherBelow := other.finish.key_lt
  have starts : l.start = other.start ↔ l.start.key = other.start.key :=
    ⟨congrArg Position.key, Position.key_inj⟩
  simp only [Precedes, Position.before_iff_key, starts, key, UInt64.size] at below otherBelow ⊢
  omega

theorem Location.Precedes.asymm {l other : Location} (before : l.Precedes other) : ¬ other.Precedes l := by
  rw [precedes_iff_key] at before ⊢
  exact Int.lt_asymm before

theorem Location.Precedes.ne {l other : Location} (before : l.Precedes other) : l ≠ other := by
  intro same
  subst same
  exact before.asymm before

/-- Is the position on a line of the text, at one of its characters or right behind them?  Column zero stands
for the first column. -/
structure Position.Addresses (p : Position) (text : List Char) : Prop where
  line_pos : 1 ≤ p.line.toNat
  line_le : p.line.toNat ≤ text.count '\n' + 1
  col_le : max p.col.toNat 1 ≤ ((linesOf text).getD (p.line.toNat - 1) []).length + 1

/-- Do both positions of the location address the text, and is its end not before its start? -/
structure Location.InText (l : Location) (text : List Char) : Prop where
  start : l.start.Addresses text
  finish : l.finish.Addresses text
  forward : ∀ i j, byteOffset? text l.start = some i → byteOffset? text l.finish = some j → i ≤ j

end Positions

namespace Coverage

variable {file : Path} {text : List Char} {cursor p : Position} {done i : Nat} {l : Location}
  {rest front : List Location} {hit : Hit} {hits others : List Hit} {e : Failure} {c : FileCoverage}

section Fitting

/-- Can the locations be marked one behind the other, the first of them at the cursor or later? -/
structure Fits (text : List Char) (cursor : Position) (locations : List Location) : Prop where
  first : ∀ l ∈ locations.head?, l.start.before cursor = false
  ordered : locations.IsChain fun l next => next.start.before l.finish = false
  inText : ∀ l ∈ locations, l.InText text

/-- Where the location behind these may start. -/
def cursorBehind (cursor : Position) (front : List Location) : Position :=
  (front.getLast?.map (·.finish)).getD cursor

/-- Is this the failure that names the first location that does not fit? -/
def Refuses (file : Path) (text : List Char) (cursor : Position) (locations : List Location)
    (e : Failure) : Prop :=
  ∃ front l back, locations = front ++ l :: back ∧ Fits text cursor front ∧
    (l.start.before (cursorBehind cursor front) = true ∧
        e = .overlappingLocations file l (cursorBehind cursor front) ∨
      l.start.before (cursorBehind cursor front) = false ∧ ¬ l.InText text ∧
        e = .locationOutOfRange file l)

theorem fits_cons_iff : Fits text cursor (l :: rest) ↔
    l.start.before cursor = false ∧ l.InText text ∧ Fits text l.finish rest := by
  constructor
  · intro fits
    obtain ⟨first, ordered, inText⟩ := fits
    obtain ⟨here, behind⟩ := List.forall_mem_cons.mp inText
    obtain ⟨next, later⟩ := List.isChain_cons.mp ordered
    exact ⟨first l rfl, here, next, later, behind⟩
  · intro fits
    obtain ⟨first, here, next, later, behind⟩ := fits
    exact ⟨fun _ same => Option.some.inj same ▸ first, List.isChain_cons.mpr ⟨next, later⟩,
      List.forall_mem_cons.mpr ⟨here, behind⟩⟩

theorem cursorBehind_cons : cursorBehind cursor (l :: front) = cursorBehind l.finish front := by
  rw [cursorBehind, cursorBehind, List.getLast?_cons]
  cases front.getLast? <;> rfl

theorem refuses_cons_iff : Refuses file text cursor (l :: rest) e ↔
    l.start.before cursor = true ∧ e = .overlappingLocations file l cursor ∨
    l.start.before cursor = false ∧ ¬ l.InText text ∧ e = .locationOutOfRange file l ∨
    l.start.before cursor = false ∧ l.InText text ∧ Refuses file text l.finish rest e := by
  constructor
  · intro refuses
    obtain ⟨front, misfit, back, split, fits, why⟩ := refuses
    cases front with
    | nil =>
        cases split
        exact why.imp_right .inl
    | cons first front =>
        cases split
        obtain ⟨ordered, inText, fits⟩ := fits_cons_iff.mp fits
        rw [cursorBehind_cons] at why
        exact .inr (.inr ⟨ordered, inText, front, misfit, back, rfl, fits, why⟩)
  · rintro (overlap | outside | ⟨ordered, inText, front, misfit, back, rfl, fits, why⟩)
    · exact ⟨[], l, rest, rfl, ⟨by simp, .nil, by simp⟩, .inl overlap⟩
    · exact ⟨[], l, rest, rfl, ⟨by simp, .nil, by simp⟩, .inr outside⟩
    · refine ⟨l :: front, misfit, back, rfl, fits_cons_iff.mpr ⟨ordered, inText, fits⟩, ?_⟩
      rwa [cursorBehind_cons]

end Fitting

section Offsets

theorem addresses_iff : p.Addresses text ↔ ∃ i, (linesOf text).offset? p = some i := by
  have size := length_linesOf text
  constructor
  · intro addresses
    obtain ⟨positive, inText, fits⟩ := addresses
    have bound : p.line.toNat - 1 < (linesOf text).length := by omega
    rw [List.getD_eq_getElem?_getD, List.getElem?_eq_getElem bound, Option.getD_some] at fits
    exact ⟨_, Lines.offset?_eq_some_iff.mpr ⟨p.line.toNat - 1, (linesOf text)[p.line.toNat - 1], by omega,
      List.getElem?_eq_getElem bound, by omega, rfl⟩⟩
  · intro found
    obtain ⟨i, found⟩ := found
    obtain ⟨index, line, number, listed, fits, -⟩ := Lines.offset?_eq_some_iff.mp found
    obtain ⟨bound, -⟩ := List.getElem?_eq_some_iff.mp listed
    refine ⟨by omega, by omega, ?_⟩
    rw [number, Nat.add_sub_cancel, List.getD_eq_getElem?_getD, listed, Option.getD_some]
    omega

theorem inText_iff : l.InText text ↔ ∃ start stop, (linesOf text).offset? l.start = some start ∧
    (linesOf text).offset? l.finish = some stop ∧ start ≤ stop := by
  constructor
  · intro inText
    obtain ⟨start, foundStart⟩ := addresses_iff.mp inText.start
    obtain ⟨stop, foundStop⟩ := addresses_iff.mp inText.finish
    have le := inText.forward _ _ (byteOffset?_eq_some foundStart) (byteOffset?_eq_some foundStop)
    exact ⟨start, stop, foundStart, foundStop, (byteSize_take_le_iff (offset?_le_length foundStart)).mp le⟩
  · intro found
    obtain ⟨start, stop, foundStart, foundStop, le⟩ := found
    refine ⟨addresses_iff.mpr ⟨start, foundStart⟩, addresses_iff.mpr ⟨stop, foundStop⟩, ?_⟩
    rw [byteOffset?_eq_some foundStart, byteOffset?_eq_some foundStop]
    rintro _ _ ⟨⟩ ⟨⟩
    exact (byteSize_take_le_iff (offset?_le_length foundStart)).mpr le

end Offsets

section Marking

theorem marksFrom_of_overlap (overlap : hit.location.start.before cursor = true) :
    marksFrom file text (linesOf text) cursor done (hit :: hits) =
      .error (.overlappingLocations file hit.location cursor) := by
  rw [marksFrom, Location.startsBefore, if_pos overlap]

theorem marksFrom_of_outside (ordered : hit.location.start.before cursor = false)
    (outside : ¬ hit.location.InText text) :
    marksFrom file text (linesOf text) cursor done (hit :: hits) =
      .error (.locationOutOfRange file hit.location) := by
  rw [inText_iff] at outside
  rw [marksFrom, Location.startsBefore, if_neg (by simp [ordered])]
  split
  · rename_i start stop foundStart foundStop
    exact if_neg fun le => outside ⟨start, stop, foundStart, foundStop, le⟩
  · rfl

theorem marksFrom_of_inText (file : Path) (done : Nat)
    (ordered : hit.location.start.before cursor = false) (inText : hit.location.InText text) : ∃ stop mark,
      marksFrom file text (linesOf text) cursor done (hit :: hits) =
        (marksFrom file text (linesOf text) hit.location.finish stop hits).map
          fun pieces => (mark :: pieces.1, pieces.2) := by
  obtain ⟨start, stop, foundStart, foundStop, le⟩ := inText_iff.mp inText
  refine ⟨stop, ⟨slice text done start, hit, slice text start stop⟩, ?_⟩
  simp only [marksFrom, Location.startsBefore, ordered, foundStart, foundStop, if_pos le]
  cases marksFrom file text (linesOf text) hit.location.finish stop hits <;> rfl

theorem marksFrom_eq_error_iff : marksFrom file text (linesOf text) cursor done hits = .error e ↔
    Refuses file text cursor (hits.map (·.location)) e := by
  induction hits generalizing cursor done with
  | nil => simp [marksFrom, Refuses]
  | cons hit hits ih =>
      rw [List.map_cons, refuses_cons_iff]
      cases ordered : hit.location.start.before cursor with
      | true => simp [marksFrom_of_overlap ordered, eq_comm]
      | false =>
          by_cases inText : hit.location.InText text
          · obtain ⟨stop, mark, step⟩ := marksFrom_of_inText file done ordered inText
            rw [step, map_eq_error_iff, ih]
            simp [inText]
          · simp [marksFrom_of_outside ordered inText, inText, eq_comm]

theorem marksFrom_eq_ok_iff : (∃ pieces, marksFrom file text (linesOf text) cursor done hits = .ok pieces) ↔
    Fits text cursor (hits.map (·.location)) := by
  induction hits generalizing cursor done with
  | nil => exact ⟨fun _ => ⟨by simp, .nil, by simp⟩, fun _ => ⟨_, rfl⟩⟩
  | cons hit hits ih =>
      rw [List.map_cons, fits_cons_iff]
      cases ordered : hit.location.start.before cursor with
      | true => simp [marksFrom_of_overlap ordered]
      | false =>
          by_cases inText : hit.location.InText text
          · obtain ⟨stop, mark, step⟩ := marksFrom_of_inText file done ordered inText
            rw [step, exists_map_eq_ok_iff, ih]
            simp [inText]
          · simp [marksFrom_of_outside ordered inText, inText]

end Marking

section Pages

def FileCoverage.locations (c : FileCoverage) : List Location := c.hits.toList.map (·.location)

theorem FileCoverage.locations_sorted (c : FileCoverage) : c.locations.Pairwise Location.Precedes :=
  List.pairwise_map.mpr (c.hits.ascending.imp Location.precedes_iff_key.mpr)

theorem FileCoverage.page_eq_map (c : FileCoverage) : c.page = c.marks.map fun pieces =>
    pageStart ++ String.ofList (pageBody pieces.1 pieces.2) ++ pageEnd := by
  rw [page]
  cases c.marks <;> rfl

theorem FileCoverage.exists_page_iff : (∃ html, c.page = .ok html) ↔ Fits c.text.toList .first c.locations := by
  rw [page_eq_map, exists_map_eq_ok_iff]
  exact marksFrom_eq_ok_iff

theorem FileCoverage.page_eq_error_iff :
    c.page = .error e ↔ Refuses c.file c.text.toList .first c.locations e := by
  rw [page_eq_map, map_eq_error_iff]
  exact marksFrom_eq_error_iff

/-- The hit that was added last at a location. -/
def lastHit? (hits : List Hit) (l : Location) : Option Hit := hits.reverse.find? (·.location = l)

theorem find?_key_eq_lastHit? (hits : List Hit) (l : Location) :
    hits.reverse.find? (·.key == l.key) = lastHit? hits l := by
  have same : (fun h : Hit => h.key == l.key) = fun h => decide (h.location = l) := by
    funext h
    rw [Bool.eq_iff_iff, beq_iff_eq, decide_eq_true_iff]
    exact Location.key_injective.eq_iff
  rw [lastHit?, same]

/-- What is added to a table counts only by the last hit at each location. -/
theorem FileCoverage.withHits_eq (same : ∀ l, lastHit? hits l = lastHit? others l) :
    c.withHits hits = c.withHits others := by
  have tables : hits.foldl Ascending.insert c.hits = others.foldl Ascending.insert c.hits := by
    refine Ascending.eq_of_find? fun k => ?_
    rw [Ascending.find?_foldl_insert, Ascending.find?_foldl_insert]
    by_cases located : ∃ l : Location, l.key = k
    · obtain ⟨l, rfl⟩ := located
      rw [find?_key_eq_lastHit?, find?_key_eq_lastHit?, same]
    · have nowhere (hits : List Hit) : hits.reverse.find? (·.key == k) = none :=
        List.find?_eq_none.mpr fun h _ found => located ⟨h.location, beq_iff_eq.mp found⟩
      rw [nowhere, nowhere]
  rw [withHits, withHits, tables]

theorem FileCoverage.mem_locations_withHits :
    l ∈ (c.withHits hits).locations ↔ l ∈ c.locations ∨ l ∈ hits.map (·.location) := by
  have added : l.key ∈ (c.withHits hits).hits.toList.map Hit.key ↔
      l.key ∈ c.hits.toList.map Hit.key ∨ l.key ∈ hits.map Hit.key := Ascending.mem_keys_foldl_insert
  rwa [mem_keys_iff, mem_keys_iff, mem_keys_iff] at added

theorem FileCoverage.locations_withHits_eq
    (same : ∀ l, l ∈ hits.map (·.location) ↔ l ∈ others.map (·.location)) :
    (c.withHits hits).locations = (c.withHits others).locations := by
  have distinct (d : FileCoverage) : d.locations.Nodup := d.locations_sorted.imp Location.Precedes.ne
  refine List.Perm.eq_of_pairwise (fun l other _ _ before behind => absurd behind before.asymm)
    (locations_sorted _) (locations_sorted _)
    ((List.perm_ext_iff_of_nodup (distinct _) (distinct _)).mpr fun l => ?_)
  rw [mem_locations_withHits, mem_locations_withHits, same]

/-- A page is cut without a slice that fails.  It is shown exactly where all locations fit, and else names
the first one that does not.  The hits that were added count by the last one at each location, and for
success and failure by their locations alone. -/
theorem page_decided (c : FileCoverage) :
    c.pageByBytes? = some c.page ∧
    c.locations.Pairwise Location.Precedes ∧
    ((∃ html, c.page = .ok html) ↔ Fits c.text.toList .first c.locations) ∧
    (∀ e, c.page = .error e ↔ Refuses c.file c.text.toList .first c.locations e) ∧
    (∀ hits others, (∀ l, lastHit? hits l = lastHit? others l) →
      (c.withHits hits).page = (c.withHits others).page) ∧
    (∀ hits others, (∀ l, l ∈ hits.map (·.location) ↔ l ∈ others.map (·.location)) →
      ((∃ html, (c.withHits hits).page = .ok html) ↔ ∃ html, (c.withHits others).page = .ok html) ∧
      ∀ e, (c.withHits hits).page = .error e ↔ (c.withHits others).page = .error e) := by
  refine ⟨c.pageByBytes?_eq, c.locations_sorted, FileCoverage.exists_page_iff,
    fun e => FileCoverage.page_eq_error_iff, fun hits others same => ?_, fun hits others same => ?_⟩
  · rw [FileCoverage.withHits_eq same]
  · have locations := FileCoverage.locations_withHits_eq (c := c) same
    refine ⟨?_, fun e => ?_⟩
    · rw [FileCoverage.exists_page_iff, FileCoverage.exists_page_iff, locations]
      rfl
    · rw [FileCoverage.page_eq_error_iff, FileCoverage.page_eq_error_iff, locations]
      rfl

end Pages

section Overlaps

/-- Do failures mean what they say?  One that tells of an overlap names the end of an earlier location behind
which the refused one does not start, and a location that does not address the text, but overlaps none of
the earlier ones, is refused as lying outside it. -/
structure OverlapsMeant (c : FileCoverage) : Prop where
  overlap : ∀ file l cursor, c.page = .error (.overlappingLocations file l cursor) →
    ∃ earlier ∈ c.locations, earlier ≠ l ∧ earlier.Precedes l ∧ earlier.finish = cursor ∧
      l.start.before earlier.finish = true
  outside : ∀ front l back, c.locations = front ++ l :: back → Fits c.text.toList .first front →
    ¬ l.InText c.text.toList → (∀ earlier ∈ front, l.start.before earlier.finish = false) →
    c.page = .error (.locationOutOfRange c.file l)

theorem Position.before_first_iff : p.before .first = true ↔ p.line = 0 ∨ p.line = 1 ∧ p.col = 0 := by
  simp only [Position.before, Position.first, Bool.or_eq_true, Bool.and_eq_true, decide_eq_true_eq,
    beq_iff_eq, UInt32.lt_iff_toNat_lt, ← UInt32.toNat_inj]
  have one : (1 : UInt32).toNat = 1 := rfl
  have zero : (0 : UInt32).toNat = 0 := rfl
  omega

theorem cursorBehind_cases (cursor : Position) (front : List Location) :
    front = [] ∧ cursorBehind cursor front = cursor ∨
      ∃ earlier ∈ front, cursorBehind cursor front = earlier.finish := by
  cases last : front.getLast? with
  | none => exact .inl ⟨List.getLast?_eq_none_iff.mp last, by rw [cursorBehind, last]; rfl⟩
  | some earlier => exact .inr ⟨earlier, List.mem_of_getLast? last, by rw [cursorBehind, last]; rfl⟩

theorem FileCoverage.precedes_of_mem {back : List Location} {earlier : Location}
    (split : c.locations = front ++ l :: back) (member : earlier ∈ front) : earlier.Precedes l := by
  have sorted := c.locations_sorted
  rw [split, List.pairwise_append] at sorted
  exact sorted.2.2 earlier member l List.mem_cons_self

theorem FileCoverage.not_precedes_first {other : Location} (first : c.locations.head? = some l)
    (member : other ∈ c.locations) : ¬ other.Precedes l := by
  obtain ⟨back, split⟩ := List.head?_eq_some_iff.mp first
  have sorted := c.locations_sorted
  rw [split] at sorted member
  rcases List.mem_cons.mp member with same | behind
  · exact fun before => before.ne same
  · exact ((List.pairwise_cons.mp sorted).1 other behind).asymm

theorem FileCoverage.of_page_eq_overlapping {file : Path} {cursor : Position}
    (failed : c.page = .error (.overlappingLocations file l cursor)) :
    file = c.file ∧ l ∈ c.locations ∧ l.start.before cursor = true ∧
      (c.locations.head? = some l ∧ cursor = .first ∨
        ∃ earlier ∈ c.locations, earlier ≠ l ∧ earlier.Precedes l ∧ earlier.finish = cursor) := by
  obtain ⟨front, l, back, split, -, ⟨overlap, same⟩ | ⟨-, -, same⟩⟩ := page_eq_error_iff.mp failed
  · cases same
    refine ⟨rfl, by simp [split], overlap, ?_⟩
    rcases cursorBehind_cases .first front with ⟨rfl, start⟩ | ⟨earlier, member, stop⟩
    · exact .inl ⟨by rw [split]; rfl, start⟩
    · have precedes := precedes_of_mem split member
      exact .inr ⟨earlier, by simp [split, member], precedes.ne, precedes, stop.symm⟩
  · cases same

theorem FileCoverage.page_of_first (first : c.locations.head? = some l)
    (early : l.start.line = 0 ∨ l.start.line = 1 ∧ l.start.col = 0) :
    c.page = .error (.overlappingLocations c.file l .first) := by
  obtain ⟨back, split⟩ := List.head?_eq_some_iff.mp first
  apply page_eq_error_iff.mpr
  refine ⟨[], l, back, split, ⟨by simp, .nil, by simp⟩, .inl ⟨?_, rfl⟩⟩
  exact Position.before_first_iff.mpr early

theorem overlapsMeant_of_first
    (timely : ∀ l ∈ c.locations.head?, ¬ (l.start.line = 0 ∨ l.start.line = 1 ∧ l.start.col = 0)) :
    OverlapsMeant c := by
  constructor
  · intro file l cursor failed
    obtain ⟨-, -, overlap, ⟨first, rfl⟩ | ⟨earlier, member, other, precedes, rfl⟩⟩ :=
      FileCoverage.of_page_eq_overlapping failed
    · exact absurd (Position.before_first_iff.mp overlap) (timely l first)
    · exact ⟨earlier, member, other, precedes, rfl, overlap⟩
  · intro front l back split fits outside apart
    apply FileCoverage.page_eq_error_iff.mpr
    refine ⟨front, l, back, split, fits, .inr ⟨?_, outside, rfl⟩⟩
    rcases cursorBehind_cases .first front with ⟨rfl, start⟩ | ⟨earlier, member, stop⟩
    · rw [start, Bool.eq_false_iff, ne_eq, Position.before_first_iff]
      exact timely l (by rw [split]; rfl)
    · rw [stop]
      exact apart earlier member

/-- A failure that tells of an overlap has the start of the refused location in front of the end of an earlier
one, unless the refused location is the first of all.  That one is measured by the place where the text
starts, so failures mean what they say exactly where it does not start before that. -/
theorem overlapsMeant_iff (c : FileCoverage) :
    (∀ file l cursor, c.page = .error (.overlappingLocations file l cursor) →
      file = c.file ∧ l ∈ c.locations ∧ l.start.before cursor = true ∧
        (c.locations.head? = some l ∧ cursor = .first ∨
          ∃ earlier ∈ c.locations, earlier ≠ l ∧ earlier.Precedes l ∧ earlier.finish = cursor)) ∧
    (∀ l ∈ c.locations.head?, l.start.line = 0 ∨ l.start.line = 1 ∧ l.start.col = 0 →
      c.page = .error (.overlappingLocations c.file l .first)) ∧
    (OverlapsMeant c ↔
      ∀ l ∈ c.locations.head?, ¬ (l.start.line = 0 ∨ l.start.line = 1 ∧ l.start.col = 0)) := by
  refine ⟨fun file l cursor => FileCoverage.of_page_eq_overlapping,
    fun l first => FileCoverage.page_of_first first, fun meant l first early => ?_, overlapsMeant_of_first⟩
  obtain ⟨earlier, member, -, precedes, -⟩ :=
    meant.overlap _ _ _ (FileCoverage.page_of_first first early)
  exact FileCoverage.not_precedes_first first member precedes

section Samples

/-- One location, on a line that no text has. -/
def lineZero : FileCoverage :=
  (FileCoverage.blank ⟨"stack.vdmsl"⟩ "Stack" "push").withHits [⟨.ofNumbers 0 1 0 2, 1⟩]

/-- A location that is alone and does not address the text is refused as an overlap. -/
theorem not_overlapsMeant : ¬ ∀ c : FileCoverage, OverlapsMeant c := by
  intro meant
  obtain ⟨earlier, member, other, -⟩ := (meant lineZero).overlap ⟨"stack.vdmsl"⟩ (.ofNumbers 0 1 0 2) .first
    (by decide +kernel)
  exact other (List.mem_singleton.mp member)

end Samples

end Overlaps

end Coverage

end SpecTest
