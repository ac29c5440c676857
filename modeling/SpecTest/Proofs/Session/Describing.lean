import SpecTest.Proofs.Report.Descriptors
import SpecTest.Proofs.Session.Entries

/-!
Which launch descriptors a directory holds right after those of a run were written.

Each test that is asked for has a descriptor of its own where its file is not that of another one.  Modules
of one transcript have different names, so that a backtick in both names, or a test that is listed twice, is
what brings two tests together.
-/

namespace SpecTest

open SpecTest.Disk SpecTest.Report SpecTest.Task

variable {w w' : World} {dir : Path} {script : Script} {g : LaunchGeneration} {project : String}
  {results : List SuiteResult} {paths : List Path}

section Asking

namespace LaunchGeneration

/-- Is a descriptor of the test asked for? -/
def Wants : LaunchGeneration → TestResult → Prop
  | all, _ => True
  | failing, r => r.verdict ≠ .pass
  | none, _ => False

theorem selects_iff_wants (g : LaunchGeneration) (r : TestResult) :
    g.selects r.verdict.isPass = true ↔ g.Wants r := by
  cases g <;> simp [selects, Wants, Verdict.isPass]

instance (g : LaunchGeneration) (r : TestResult) : Decidable (g.Wants r) :=
  decidable_of_iff _ (g.selects_iff_wants r)

/-- The tests of a suite that are asked for. -/
def wantedOf (g : LaunchGeneration) (s : SuiteResult) : List String :=
  (s.results.filter fun r => g.Wants r).map (·.testName)

/-- The tests that are asked for, with their modules, suite by suite. -/
def wanted (g : LaunchGeneration) (results : List SuiteResult) : List (String × String) :=
  results.flatMap fun s => (g.wantedOf s).map fun test => (s.moduleName, test)

theorem selected_eq_wanted (g : LaunchGeneration) (results : List SuiteResult) :
    g.selected results = g.wanted results := by
  rw [selected, wanted]
  refine List.flatMap_congr fun s _ => ?_
  have same : (s.results.filter fun r => g.selects r.verdict.isPass) = s.results.filter fun r => g.Wants r :=
    List.filter_congr fun r _ => by rw [Bool.eq_iff_iff, selects_iff_wants, decide_eq_true_iff]
  rw [same, wantedOf, List.map_map]
  rfl

/-- Where modules have names of their own, a test is asked for twice only within one suite. -/
theorem wanted_nodup_iff (distinct : (results.map (·.moduleName)).Nodup) :
    (g.wanted results).Nodup ↔ ∀ s ∈ results, (g.wantedOf s).Nodup := by
  rw [wanted, List.nodup_flatMap]
  have each (s : SuiteResult) :
      ((g.wantedOf s).map fun test => (s.moduleName, test)).Nodup ↔ (g.wantedOf s).Nodup :=
    List.nodup_map_iff fun _ _ same => (Prod.mk.inj same).2
  have apart : results.Pairwise fun s other => List.Disjoint
      ((g.wantedOf s).map fun test => (s.moduleName, test))
      ((g.wantedOf other).map fun test => (other.moduleName, test)) := by
    refine (List.pairwise_map.mp distinct).imp fun different t here there => different ?_
    obtain ⟨test, -, rfl⟩ := List.mem_map.mp here
    obtain ⟨_, -, same⟩ := List.mem_map.mp there
    exact (Prod.mk.inj same).1.symm
  simp only [each, apart, and_true]

end LaunchGeneration

end Asking

/-- The tests have descriptors of their own at these paths in this order, each that of its own module and
test, and the directory holds nothing else. -/
def Describes (d d' : Disk) (dir : Path) (project : String) (tests : List (String × String))
    (paths : List Path) : Prop :=
  HoldsEach d d' dir paths (tests.map fun t => launch t.1 t.2 project)

/-- A run of the tests that were found in a transcript gives results.  When their descriptors are written, the
paths are given in order, and the directory holds one for each test that was asked for and nothing else
exactly if there is room for their names.  In a tree, for a plain path and names without slashes, the names
have to be different.  Unless backticks stand in the names of both modules and tests, that is so exactly if
no module has a test of one name twice. -/
theorem run_described_iff (valid : script.transcript.validate = .ok ()) (took : Nat → UInt64)
    (selector : Selector) (codes : ViolationCodes) (timestamp : Timestamp) (state : ScriptState)
    (g : LaunchGeneration) (dir : Path) (project : String) :
    ∃ results,
      ((script.interpreter took).run codes timestamp (selector.discover script.modules) state).1 =
        .ok results ∧
      ∀ w paths w', (writeLaunch (some dir) g (some project) results).on w = (.ok paths, w') →
        paths = (g.wanted results).map (fun t => dir.child (launchFileName t.1 t.2)) ∧
        (Describes w.disk w'.disk dir project (g.wanted results) paths ↔
          HasRoom w.disk dir (launchNames g results)) ∧
        (w.disk.IsTree → dir.Plain → dir.text ≠ "" →
          (∀ t ∈ g.wanted results, '/' ∉ t.1.toList ∧ '/' ∉ t.2.toList) →
          (Describes w.disk w'.disk dir project (g.wanted results) paths ↔ (launchNames g results).Nodup) ∧
          ((∀ t ∈ g.wanted results, '\x60' ∉ t.1.toList) ∨ (∀ t ∈ g.wanted results, '\x60' ∉ t.2.toList) →
            (Describes w.disk w'.disk dir project (g.wanted results) paths ↔
              ∀ s ∈ results, (g.wantedOf s).Nodup))) := by
  have distinct := Script.discover_distinct_of_valid valid selector
  obtain ⟨results, finished, -⟩ :=
    script.run_tests took codes timestamp (selector.discover script.modules) state
  rw [← Interpreter.run_names finished] at distinct
  refine ⟨results, finished, fun w paths w' written => ?_⟩
  obtain ⟨named, holds, room⟩ := writeLaunch_holdsEach_iff written
  rw [LaunchGeneration.selected_eq_wanted] at named holds room
  refine ⟨named, holds, fun tree plain nonempty noSlashes => ?_⟩
  have different := room tree plain nonempty noSlashes
  refine ⟨holds.trans different, fun noBackticks => holds.trans (different.trans ?_)⟩
  rw [← LaunchGeneration.selected_eq_wanted] at noBackticks
  rw [launchNames_nodup_iff noBackticks, LaunchGeneration.selected_eq_wanted]
  exact LaunchGeneration.wanted_nodup_iff distinct

section Samples

def describedScript : Script where
  transcript.modules := [⟨"TestStack", [], [⟨"TestPush", 0, .returned⟩,
    ⟨"TestPop", 0, .violated ⟨4071, "pre_Pop"⟩⟩]⟩]
  baseDir := ⟨""⟩

def describedResults : List SuiteResult :=
  [⟨"TestStack", default, [⟨"TestPush", 0, .pass, none⟩, ⟨"TestPop", 0, .error, some "pre_Pop"⟩]⟩]

/-- A descriptor of an earlier run is there. -/
def describedWorld : World where
  disk.workDir := ["work"]
  disk.entries := [(["work"], .directory), (["work", "launch"], .directory),
    (["work", "launch", "TestQueue\x60TestPop.launch"], .file "old")]

theorem describedScript_described :
    describedScript.transcript.validate = .ok () ∧
    ((describedScript.interpreter fun _ => 0).run {} default
      (({} : Selector).discover describedScript.modules) {}).1 = .ok describedResults ∧
    ∃ w', (writeLaunch (some ⟨"launch"⟩) .failing (some "specs") describedResults).on describedWorld =
        (.ok [⟨"launch/TestStack\x60TestPop.launch"⟩], w') ∧
      Describes describedWorld.disk w'.disk ⟨"launch"⟩ "specs" [("TestStack", "TestPop")]
        [⟨"launch/TestStack\x60TestPop.launch"⟩] := by
  have valid : describedScript.transcript.validate = .ok () := rfl
  obtain ⟨results, finished, described⟩ :=
    run_described_iff valid (fun _ => 0) {} {} default {} .failing ⟨"launch"⟩ "specs"
  have ran : ((describedScript.interpreter fun _ => 0).run {} default
      (({} : Selector).discover describedScript.modules) {}).1 = .ok describedResults := by decide +kernel
  cases ran.symm.trans finished
  have gives : ((writeLaunch (some ⟨"launch"⟩) .failing (some "specs") describedResults).on
      describedWorld).1 = .ok [⟨"launch/TestStack\x60TestPop.launch"⟩] := by decide +kernel
  obtain ⟨-, -, plainly⟩ := described _ _ _ (on_of_fst gives)
  obtain ⟨-, unlessBackticks⟩ := plainly (isTree_of_entries (by decide)) (by decide) (by decide) (by decide)
  exact ⟨valid, ran, _, on_of_fst gives, (unlessBackticks (.inl (by decide))).mpr (by decide)⟩

/-- A module whose name continues as that of a test, and the other way round. -/
def backtickScript : Script where
  transcript.modules := [⟨"TestA\x60TestB", [], [⟨"TestC", 0, .returned⟩]⟩,
    ⟨"TestA", [], [⟨"TestB\x60TestC", 0, .returned⟩]⟩]
  baseDir := ⟨""⟩

def backtickResults : List SuiteResult :=
  [⟨"TestA\x60TestB", default, [⟨"TestC", 0, .pass, none⟩]⟩,
    ⟨"TestA", default, [⟨"TestB\x60TestC", 0, .pass, none⟩]⟩]

/-- The descriptors of two tests get one path. -/
theorem run_not_described :
    ¬ ∀ (script : Script) (took : Nat → UInt64) (selector : Selector) (codes : ViolationCodes)
        (timestamp : Timestamp) (state : ScriptState) (results : List SuiteResult) (g : LaunchGeneration)
        (dir : Path) (project : String) (paths : List Path) (w w' : World),
      script.transcript.validate = .ok () →
      ((script.interpreter took).run codes timestamp (selector.discover script.modules) state).1 =
        .ok results →
      w.disk.IsTree → dir.Plain → dir.text ≠ "" →
      (writeLaunch (some dir) g (some project) results).on w = (.ok paths, w') →
      Describes w.disk w'.disk dir project (g.wanted results) paths := by
  intro allDescribed
  have ran : ((backtickScript.interpreter fun _ => 0).run {} default
      (({} : Selector).discover backtickScript.modules) {}).1 = .ok backtickResults := by decide +kernel
  have gives : ((writeLaunch (some ⟨"launch"⟩) .all (some "specs") backtickResults).on
      describedWorld).1 = .ok [⟨"launch/TestA\x60TestB\x60TestC.launch"⟩,
        ⟨"launch/TestA\x60TestB\x60TestC.launch"⟩] := by decide +kernel
  have described := allDescribed backtickScript _ {} {} default {} _ .all ⟨"launch"⟩ "specs" _ describedWorld _
    rfl ran (isTree_of_entries (by decide)) (by decide) (by decide) (on_of_fst gives)
  exact absurd (List.rel_of_pairwise_cons described.apart List.mem_cons_self) (by decide)

end Samples

end SpecTest
