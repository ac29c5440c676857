import SpecTest.Proofs.Data.Success
import SpecTest.Proofs.Disk.Entries

/-!
When a path can be followed, and what is read at its end.
-/

namespace SpecTest

structure Path.Valid (p : Path) : Prop where
  noNul : p.text.toList.contains '\x00' = false
  named : p.text ≠ ""
  short : p.text.utf8ByteSize < Disk.pathLimit
  shortNames : ∀ segment ∈ p.segments, ∀ n, Path.partOf? segment = some (.name n) →
    n.utf8ByteSize ≤ Disk.nameLimit

namespace Disk

open SpecTest.Data

variable {d : Disk} {a b : Address} {p : Path}

theorem step_eq_ok_iff {segment : String} :
    d.step a segment = .ok b ↔ d.IsDir a ∧
      (∀ n, Path.partOf? segment = some (.name n) → n.utf8ByteSize ≤ nameLimit) ∧
      b = Path.turn a segment := by
  unfold step IsDir Path.turn
  cases entry : d.find? a with
  | none => simp
  | some found =>
      cases found with
      | file text => simp
      | directory =>
          cases part : Path.partOf? segment with
          | none => simp [eq_comm]
          | some meaning =>
              cases meaning with
              | root => simp [eq_comm]
              | here => simp [eq_comm]
              | up => simp [eq_comm]
              | name n =>
                  by_cases long : nameLimit < n.utf8ByteSize
                  · have tooLong : ¬ n.utf8ByteSize ≤ nameLimit := by omega
                    simp [long, tooLong]
                  · have fits : n.utf8ByteSize ≤ nameLimit := by omega
                    simp [long, fits, eq_comm]

/-- Segments can be followed where they pass directories only, and lead where they lead anyway. -/
theorem follow_eq_ok_iff {segments : List String} :
    d.follow a segments = .ok b ↔ (∀ x ∈ Path.passed a segments, d.IsDir x) ∧
      (∀ segment ∈ segments, ∀ n, Path.partOf? segment = some (.name n) → n.utf8ByteSize ≤ nameLimit) ∧
      b = segments.foldl Path.turn a := by
  induction segments generalizing a with
  | nil =>
      simp only [follow, List.foldlM_nil, Path.passed, List.foldl_nil]
      constructor
      · intro done
        cases done
        simp
      · intro arrives
        obtain ⟨-, -, rfl⟩ := arrives
        rfl
  | cons segment rest ih =>
      have unfolded : d.follow a (segment :: rest) = d.step a segment >>= fun x => d.follow x rest := rfl
      rw [unfolded]
      cases first : d.step a segment with
      | error reason =>
          have refused : ¬ d.step a segment = .ok (Path.turn a segment) := by rw [first]; simp
          rw [step_eq_ok_iff] at refused
          simp only [Path.passed, List.forall_mem_cons]
          constructor
          · intro stuck
            contradiction
          · intro arrives
            obtain ⟨⟨isDir, -⟩, ⟨fits, -⟩, -⟩ := arrives
            exact absurd ⟨isDir, fits, rfl⟩ refused
      | ok next =>
          obtain ⟨isDir, fits, rfl⟩ := step_eq_ok_iff.mp first
          change d.follow (Path.turn a segment) rest = .ok b ↔ _
          rw [ih]
          simp only [Path.passed, List.forall_mem_cons, List.foldl_cons]
          constructor
          · intro arrives
            obtain ⟨dirs, names, goal⟩ := arrives
            exact ⟨⟨isDir, dirs⟩, ⟨fits, names⟩, goal⟩
          · intro arrives
            obtain ⟨⟨-, dirs⟩, ⟨-, names⟩, goal⟩ := arrives
            exact ⟨dirs, names, goal⟩

/-- Is there a directory from which the path can be followed? -/
def Reaches (d : Disk) (p : Path) : Prop := p.isAbsolute = true ∨ d.workDirGone = false

theorem start_eq_ok_iff :
    d.start p = .ok a ↔ p.text.toList.contains '\x00' = false ∧ p.text ≠ "" ∧
      p.text.utf8ByteSize < pathLimit ∧ d.Reaches p ∧ a = p.base d.workDir := by
  unfold start
  by_cases nul : p.text.toList.contains '\x00' = true
  · rw [if_pos nul, nul]
    simp
  · rw [if_neg nul, Bool.eq_false_iff.mpr nul]
    by_cases named : p.text = ""
    · simp [named]
    · rw [if_neg named]
      by_cases long : pathLimit ≤ p.text.utf8ByteSize
      · have tooLong : ¬ p.text.utf8ByteSize < pathLimit := by omega
        simp [long, tooLong]
      · have short : p.text.utf8ByteSize < pathLimit := by omega
        rw [if_neg long, Path.base, Reaches]
        cases p.isAbsolute with
        | true => simp [named, short]
        | false => cases d.workDirGone <;> simp [named, short, @eq_comm _ a]

/-- A path leads to an entry where it is valid, can be followed from somewhere, passes directories only, and
the entry is at its address. -/
theorem lookup_eq_ok_iff {e : Entry} :
    d.lookup p = .ok (a, e) ↔ p.Valid ∧ d.Reaches p ∧ (∀ x ∈ p.trail d.workDir, d.IsDir x) ∧
      a = p.address d.workDir ∧ d.find? a = some e := by
  simp only [lookup, bind_eq_ok_iff, start_eq_ok_iff, follow_eq_ok_iff]
  constructor
  · intro steps
    obtain ⟨base, ⟨noNul, named, short, reaches, rfl⟩, goal, ⟨dirs, names, rfl⟩, found⟩ := steps
    cases entry : d.find? (p.segments.foldl Path.turn (p.base d.workDir)) with
    | none => rw [entry] at found; contradiction
    | some other =>
        rw [entry] at found
        cases found
        exact ⟨⟨noNul, named, short, names⟩, reaches, dirs, rfl, entry⟩
  · intro leads
    obtain ⟨valid, reaches, dirs, rfl, entry⟩ := leads
    refine ⟨_, ⟨valid.noNul, valid.named, valid.short, reaches, rfl⟩, _, ⟨dirs, valid.shortNames, rfl⟩, ?_⟩
    rw [Path.address] at entry
    rw [entry]
    rfl

theorem readText_eq_ok_iff {text : String} :
    d.readText p = .ok text ↔ p.Valid ∧ d.Reaches p ∧ (∀ x ∈ p.trail d.workDir, d.IsDir x) ∧
      d.find? (p.address d.workDir) = some (.file text) := by
  have fromLookup : d.readText p = .ok text ↔ d.lookup p = .ok (p.address d.workDir, .file text) := by
    unfold readText
    cases found : d.lookup p with
    | error reason => simp [bind, Except.bind]
    | ok result =>
        obtain ⟨goal, entry⟩ := result
        obtain ⟨-, -, -, rfl, -⟩ := lookup_eq_ok_iff.mp found
        cases entry <;> simp [bind, Except.bind, pure, Except.pure]
  rw [fromLookup, lookup_eq_ok_iff]
  simp

def HasFile (d : Disk) (p : Path) : Prop := ∃ text, d.readText p = .ok text

theorem isThere_iff :
    d.isThere p = true ↔ p.Valid ∧ d.Reaches p ∧ (∀ x ∈ p.trail d.workDir, d.IsDir x) ∧
      (d.find? (p.address d.workDir)).isSome := by
  unfold isThere
  constructor
  · intro there
    cases found : d.lookup p with
    | error reason => simp [found, Except.isOk, Except.toBool] at there
    | ok result =>
        obtain ⟨goal, entry⟩ := result
        obtain ⟨valid, reaches, dirs, rfl, present⟩ := lookup_eq_ok_iff.mp found
        exact ⟨valid, reaches, dirs, by simp [present]⟩
  · intro leads
    obtain ⟨valid, reaches, dirs, present⟩ := leads
    obtain ⟨entry, present⟩ := Option.isSome_iff_exists.mp present
    rw [lookup_eq_ok_iff.mpr ⟨valid, reaches, dirs, rfl, present⟩]
    rfl

theorem isDirectory_iff :
    d.isDirectory p = true ↔ p.Valid ∧ d.Reaches p ∧ ∀ x ∈ p.route d.workDir, d.IsDir x := by
  have fromLookup : d.isDirectory p = true ↔ d.lookup p = .ok (p.address d.workDir, .directory) := by
    unfold isDirectory
    cases found : d.lookup p with
    | error reason => simp
    | ok result =>
        obtain ⟨goal, entry⟩ := result
        obtain ⟨-, -, -, rfl, -⟩ := lookup_eq_ok_iff.mp found
        cases entry <;> simp
  rw [fromLookup, lookup_eq_ok_iff]
  constructor
  · intro leads
    obtain ⟨valid, reaches, dirs, -, atEnd⟩ := leads
    refine ⟨valid, reaches, fun x member => ?_⟩
    rw [Path.route, if_neg valid.named] at member
    rcases List.mem_append.mp member with onWay | last
    · exact dirs x onWay
    · rw [List.mem_singleton.mp last]
      exact atEnd
  · intro leads
    obtain ⟨valid, reaches, dirs⟩ := leads
    refine ⟨valid, reaches, fun x member => dirs x (Path.trail_subset_route valid.named member), rfl, dirs _ ?_⟩
    rw [Path.route, if_neg valid.named]
    exact List.mem_append_right _ (List.mem_singleton_self _)

end Disk

end SpecTest
