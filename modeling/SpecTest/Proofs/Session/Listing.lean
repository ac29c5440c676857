import Mathlib.Data.List.Forall2
import SpecTest.Proofs.Host.Reading
import SpecTest.Proofs.Session.Counts
import SpecTest.Proofs.Session.Delivery
import SpecTest.Proofs.Session.Layering
import SpecTest.Proofs.Session.Setup
import SpecTest.Proofs.Unicode.WhiteSpace

/-!
What the listing of tests tells of a session: the modules and tests that it runs, in its order, and by what it
judges each of them.
-/

namespace SpecTest

open SpecTest.CommandLine SpecTest.Data SpecTest.Report SpecTest.Task

structure PlannedTest where
  name : String
  expectation : Expectation
deriving DecidableEq, Repr

structure PlannedSuite where
  moduleName : String
  tests : List PlannedTest
deriving DecidableEq, Repr

def PlannedTest.line (t : PlannedTest) : String :=
  "  " ++ t.name ++ " [" ++ t.expectation.description ++ "]\n"

def PlannedSuite.text (p : PlannedSuite) : String :=
  p.moduleName ++ "\n" ++ String.join (p.tests.map (·.line))

def planText (plan : List PlannedSuite) (tests modules : Nat) : String :=
  String.join (plan.map (·.text)) ++ toString tests ++ " tests in " ++ toString modules ++ " modules\n"

/-- Is the test of the name judged by the expectation, however it ends? -/
def Expectation.Decides (e : Expectation) (test : String) : Prop :=
  ∀ codes outcome millis, ∃ verdict message,
    TestResult.ofOutcome codes test outcome millis = ⟨test, millis, verdict, message⟩ ∧
      e.judge outcome codes = (verdict, message)

/-- Is this the result of the planned test, which was judged by what is planned for it? -/
structure PlannedTest.RunAs (script : Script) (codes : ViolationCodes) (moduleName : String) (t : PlannedTest)
    (r : TestResult) : Prop where
  name : r.testName = t.name
  decides : t.expectation.Decides t.name
  judged : (r.verdict, r.message) = t.expectation.judge (script.call moduleName t.name) codes

structure PlannedSuite.RunAs (script : Script) (codes : ViolationCodes) (p : PlannedSuite) (s : SuiteResult) :
    Prop where
  name : s.moduleName = p.moduleName
  tests : List.Forall₂ (PlannedTest.RunAs script codes p.moduleName) p.tests s.results

section Planning

variable {script : Script} {codes : ViolationCodes} {e : Expectation} {test : String}

theorem Expectation.description_injective : Function.Injective description := by
  intro e other same
  cases e <;> cases other <;> first | rfl | exact absurd same (by decide)

theorem Expectation.judge_returned_inj {other : Expectation}
    (same : e.judge .returned codes = other.judge .returned codes) : e = other := by
  simp only [judge] at same
  split at same
  · rename_i succeeds
    split at same
    · rename_i succeedsToo
      rw [succeeds, succeedsToo]
    · cases same
  · split at same
    · cases same
    · simp only [Prod.mk.injEq, Option.some.injEq, String.append_right_inj, true_and] at same
      exact description_injective same

/-- One expectation decides a test: that of its name. -/
theorem Expectation.decides_iff : e.Decides test ↔ e = .ofName test := by
  constructor
  · intro decides
    obtain ⟨verdict, message, ended, judged⟩ := decides {} .returned 0
    simp only [TestResult.ofOutcome, TestResult.mk.injEq, true_and] at ended
    have judgedByName : (ofName test).judge .returned {} = (verdict, message) := Prod.ext ended.1 ended.2
    exact judge_returned_inj (judged.trans judgedByName.symm)
  · rintro rfl codes outcome millis
    exact ⟨_, _, rfl, rfl⟩

def Suite.plan (s : Suite) : PlannedSuite := ⟨s.moduleName, s.tests.map fun test => ⟨test, .ofName test⟩⟩

theorem Suite.listAll_eq (suites : List Suite) : Suite.listAll suites =
    planText (suites.map (·.plan)) (sumOf (suites.map (·.tests.length))) suites.length := by
  have lines (s : Suite) : s.plan.text = s.listing := by
    simp only [plan, PlannedSuite.text, listing, PlannedTest.line, List.map_map, Function.comp_def]
  simp only [listAll, planText, List.map_map, Function.comp_def, lines]

theorem PlannedTest.runAs_of_answers {moduleName : String} {r : TestResult}
    (answered : script.Answers codes moduleName test r) :
    PlannedTest.RunAs script codes moduleName ⟨test, .ofName test⟩ r :=
  ⟨answered.name, Expectation.decides_iff.mpr rfl, answered.judged⟩

theorem Suite.plan_runAs {s : Suite} {timestamp : Timestamp} {r : SuiteResult}
    (tested : script.Tests codes timestamp s r) : s.plan.RunAs script codes r := by
  refine ⟨tested.name, ?_⟩
  rw [plan, List.forall₂_map_left_iff]
  exact tested.results.imp fun _ _ answered => PlannedTest.runAs_of_answers answered

theorem Script.testCounts_eq {timestamp : Timestamp} {suites : List Suite} {results : List SuiteResult}
    (tested : List.Forall₂ (script.Tests codes timestamp) suites results) :
    results.map (·.testCount) = suites.map (·.tests.length) := by
  induction tested with
  | nil => rfl
  | cons first _ ih => rw [List.map_cons, List.map_cons, ih, first.results.length_eq, SuiteResult.testCount]

end Planning

section Running

variable {w w' v v' : World} {a : TestArgs} {settings : Settings} {transcript : Path} {config : Option Path}
  {output : OutputSettings} {hostname listing : String} {script : Script} {results : List SuiteResult}
  {outcome : SessionOutcome}

theorem Script.load_reads (file : Path) : Reads (Script.load file) := by
  refine (Reads.readText file).bind fun text => ?_
  dsimp only
  split
  · exact .throw _
  · split
    · exact .throw _
    · exact (Reads.log _ _).bind fun _ => .pure _

theorem SettingsLayer.loadOption_reads (file : Option Path) : Reads (SettingsLayer.loadOption file) := by
  cases file with
  | none => exact .pure _
  | some file =>
      refine (Reads.readText file).bind fun text => ?_
      split
      · exact .pure _
      · exact .throw _

/-- A command without options but its file runs with the settings of the file, and may name a project. -/
theorem CommandLine.TestArgs.settings_of_file
    (settled : (TestArgs.settings { transcript, config }).on w = (.ok settings, w')) :
    ∃ file v, (SettingsLayer.loadOption config).on w = (.ok file, v) ∧
      settings = withProject (file.over {}) v.disk.workDir.getLast? := by
  obtain ⟨file, v, loaded, rest⟩ := bind_on_eq_ok_iff.mp settled
  obtain ⟨workDir, v₁, placed, rest⟩ := bind_on_eq_ok_iff.mp rest
  obtain ⟨warnings, v₂, -, rest⟩ := bind_on_eq_ok_iff.mp rest
  obtain ⟨⟨⟩, v₃, -, done⟩ := bind_on_eq_ok_iff.mp rest
  cases placed
  cases done
  exact ⟨file, v, loaded, rfl⟩

theorem CommandLine.TestArgs.withProject_selector (s : Settings) (workDir : Option String) :
    (withProject s workDir).selector = s.selector := by
  rw [withProject]
  split <;> rfl

theorem runTranscript_on_eq_ok
    (done : (runTranscript settings transcript).on w = (.ok (script, results), w')) :
    ∃ v selector timestamp, (Script.load transcript).on w = (.ok script, v) ∧
      settings.selector = .ok selector ∧
      List.Forall₂ (script.Tests settings.violationCodes timestamp) (selector.discover script.modules)
        results := by
  obtain ⟨loaded, v₁, load, rest⟩ := bind_on_eq_ok_iff.mp done
  obtain ⟨⟨⟩, v₂, -, rest⟩ := bind_on_eq_ok_iff.mp rest
  obtain ⟨selector, v₃, selected, rest⟩ := bind_on_eq_ok_iff.mp rest
  obtain ⟨⟨⟩, v₄, -, rest⟩ := bind_on_eq_ok_iff.mp rest
  obtain ⟨took, v₅, -, rest⟩ := bind_on_eq_ok_iff.mp rest
  obtain ⟨now, v₆, -, rest⟩ := bind_on_eq_ok_iff.mp rest
  obtain ⟨⟨⟩, v₇, -, rest⟩ := bind_on_eq_ok_iff.mp rest
  obtain ⟨finished, v₈, ran, rest⟩ := bind_on_eq_ok_iff.mp rest
  cases rest
  obtain ⟨_, gives, tested⟩ := script.run_tests took settings.violationCodes now
    (selector.discover script.modules) {}
  cases (Prod.mk.inj ran).1.symm.trans gives
  exact ⟨v₁, selector, now, load, (Prod.mk.inj selected).1, tested⟩

theorem ListArgs.execute_on_eq_ok
    (listed : (ListArgs.execute ⟨transcript, config⟩).on v = (.ok listing, v')) :
    ∃ file script selector u u₁, (SettingsLayer.loadOption config).on v = (.ok file, u) ∧
      (Script.load transcript).on u = (.ok script, u₁) ∧ (file.over {}).selector = .ok selector ∧
      listing = Suite.listAll (selector.discover script.modules) := by
  obtain ⟨file, u, loaded, rest⟩ := bind_on_eq_ok_iff.mp listed
  obtain ⟨script, u₁, read, rest⟩ := bind_on_eq_ok_iff.mp rest
  obtain ⟨⟨⟩, u₂, -, rest⟩ := bind_on_eq_ok_iff.mp rest
  obtain ⟨selector, u₃, selected, done⟩ := bind_on_eq_ok_iff.mp rest
  cases done
  exact ⟨file, script, selector, u, u₁, loaded, read, (Prod.mk.inj selected).1, rfl⟩

/-- A listing and a session with the same files and no other options read the same script and find the same
suites in it. -/
theorem listing_finds_suites (same : v.disk = w.disk)
    (listed : (ListArgs.execute ⟨transcript, config⟩).on v = (.ok listing, v'))
    (settled : (TestArgs.settings { transcript, config }).on w = (.ok settings, w'))
    {u u' : World} (kept : u.disk = w.disk)
    (done : (runTranscript settings transcript).on u = (.ok (script, results), u')) :
    ∃ suites timestamp, listing = Suite.listAll suites ∧
      List.Forall₂ (script.Tests settings.violationCodes timestamp) suites results := by
  obtain ⟨file, other, selector, v₁, v₂, loaded, read, selected, rfl⟩ := ListArgs.execute_on_eq_ok listed
  obtain ⟨fileToo, w₁, loadedToo, rfl⟩ := TestArgs.settings_of_file settled
  obtain ⟨u₁, selectorToo, timestamp, readToo, selectedToo, tested⟩ := runTranscript_on_eq_ok done
  have sameFile := (SettingsLayer.loadOption_reads config).on_eq same loaded
  rw [loadedToo] at sameFile
  cases sameFile
  have sameDisk : v₁.disk = u.disk :=
    ((SettingsLayer.loadOption_reads config).keeps.disk_eq loaded).trans (same.trans kept.symm)
  have sameScript := (Script.load_reads transcript).on_eq sameDisk read
  rw [readToo] at sameScript
  cases sameScript
  rw [TestArgs.withProject_selector, selected] at selectedToo
  cases selectedToo
  exact ⟨_, timestamp, rfl, tested⟩

/-- A listing tells the plan of a session with the same files and no other options: its modules and tests are
those of the results in their order, each test is judged by what is listed for it, and its totals are those of
the summary and of the documents that are written. -/
theorem listing_is_plan (same : v.disk = w.disk)
    (listed : (ListArgs.execute ⟨transcript, config⟩).on v = (.ok listing, v'))
    (ran : (TestArgs.run { transcript, config } output hostname).on w = (.ok outcome, w')) :
    ∃ settings script plan,
      ((TestArgs.settings { transcript, config }).on w).1 = .ok settings ∧
      ((Script.load transcript).on w).1 = .ok script ∧
      listing = planText plan outcome.summary.tests outcome.reportFiles.length ∧
      List.Forall₂ (PlannedSuite.RunAs script settings.violationCodes) plan outcome.results ∧
      outcome.reportFiles = outcome.results.map (fun s => settings.reportDir.child (junitFileName s.moduleName)) ∧
      (junitNames outcome.results).Nodup ∧
      ∃ documents, WroteReports settings hostname outcome documents w.disk w'.disk := by
  obtain ⟨settings, u, settled, session⟩ := bind_on_eq_ok_iff.mp ran
  have kept := (TestArgs.settings_keepsDisk _).disk_eq settled
  obtain ⟨distinct, documents, wrote⟩ := runSession_on_eq_ok session
  rw [kept] at wrote
  rw [runSession_eq] at session
  obtain ⟨⟨script, results⟩, u', done, reports⟩ := bind_on_eq_ok_iff.mp session
  obtain ⟨sameResults, summary, -⟩ := reportResults_on_eq_ok reports
  obtain ⟨suites, timestamp, rfl, tested⟩ := listing_finds_suites same listed settled kept done
  obtain ⟨u₁, -, -, read, -⟩ := runTranscript_on_eq_ok done
  have sameScript := (Script.load_reads transcript).on_eq kept read
  have suiteCount : outcome.reportFiles.length = suites.length := by
    rw [wrote.reportFiles_eq, List.length_map, sameResults, tested.length_eq]
  have testCount : outcome.summary.tests = sumOf (suites.map (·.tests.length)) := by
    rw [summary, RunSummary.ofResults_eq, Script.testCounts_eq tested]
  refine ⟨settings, script, suites.map (·.plan), ?_, sameScript, ?_, ?_, wrote.reportFiles_eq,
    junitNames_nodup distinct, documents, wrote⟩
  · rw [settled]
  · rw [Suite.listAll_eq, suiteCount, testCount]
  · rw [sameResults, List.forall₂_map_left_iff]
    exact tested.imp fun _ _ tested => Suite.plan_runAs tested

end Running

section Samples

/-- A transcript with two tests and an operation with a parameter, beside a file of settings. -/
def plannedWorld : World where
  callMillis _ := 30
  disk.workDir := ["work"]
  disk.entries := [(["work"], .directory),
    (["work", "c.yaml"], .file "report_dir: junit\n"),
    (["work", "t.json"], .file ("\x7b\"modules\": [\x7b\"name\": \"TestStack\", \"operations\": [" ++
      "\x7b\"name\": \"TestPush\"\x7d, \x7b\"name\": \"TestPopExpectPreconditionFailure\"\x7d, " ++
      "\x7b\"name\": \"TestWith\", \"arity\": 1\x7d]\x7d]\x7d"))]

def plannedListing : String :=
  "TestStack\n  TestPush [success]\n  TestPopExpectPreconditionFailure [precondition failure]\n" ++
    "2 tests in 1 modules\n"

def plannedOutcome : SessionOutcome where
  results := [⟨"TestStack", plannedWorld.now, [⟨"TestPush", 30, .pass, none⟩,
    ⟨"TestPopExpectPreconditionFailure", 30, .fail,
      some "test passed, but expected precondition failure"⟩]⟩]
  summary := ⟨2, 1, 0⟩
  coverage := none
  reportFiles := [⟨"junit/TEST-TestStack.xml"⟩]
  launchFiles := [⟨"build/specrun/launch/TestStack\x60TestPopExpectPreconditionFailure.launch"⟩]

theorem loadOption_on_plannedWorld : (SettingsLayer.loadOption (some ⟨"c.yaml"⟩)).on plannedWorld =
    ((Document.fromYaml (Document.readSettings Yaml.format) "report_dir: junit\n").mapError fun reason =>
      .settings (.unreadable ⟨"c.yaml"⟩ reason), plannedWorld) := by
  have read : plannedWorld.disk.readText ⟨"c.yaml"⟩ = .ok "report_dir: junit\n" := by decide +kernel
  have settles : "report_dir: junit\n".toList.all Unicode.whiteSpace.contains = false := by
    rw [Unicode.whiteSpace_eq]
    decide
  rw [SettingsLayer.loadOption, SettingsLayer.load_on_of_read read, SettingsLayer.ofText, settles,
    if_neg Bool.false_ne_true]

theorem listing_is_plan_planned : ∃ v w',
    (ListArgs.execute ⟨⟨"t.json"⟩, some ⟨"c.yaml"⟩⟩).on plannedWorld = (.ok plannedListing, v) ∧
    (TestArgs.run { transcript := ⟨"t.json"⟩, config := some ⟨"c.yaml"⟩ } {} "localhost").on plannedWorld =
      (.ok plannedOutcome, w') ∧
    ∃ settings script plan,
      ((TestArgs.settings { transcript := ⟨"t.json"⟩, config := some ⟨"c.yaml"⟩ }).on plannedWorld).1 =
        .ok settings ∧
      ((Script.load ⟨"t.json"⟩).on plannedWorld).1 = .ok script ∧
      plannedListing = planText plan 2 1 ∧
      List.Forall₂ (PlannedSuite.RunAs script settings.violationCodes) plan plannedOutcome.results ∧
      ∃ documents, WroteReports settings "localhost" plannedOutcome documents plannedWorld.disk w'.disk := by
  have listed : ((ListArgs.execute ⟨⟨"t.json"⟩, some ⟨"c.yaml"⟩⟩).on plannedWorld).1 = .ok plannedListing := by
    rw [ListArgs.execute, on_bind, loadOption_on_plannedWorld]
    decide +kernel
  have ran : ((TestArgs.run { transcript := ⟨"t.json"⟩, config := some ⟨"c.yaml"⟩ } {} "localhost").on
      plannedWorld).1 = .ok plannedOutcome := by
    rw [TestArgs.run, on_bind, TestArgs.settings, on_bind, loadOption_on_plannedWorld]
    decide +kernel
  obtain ⟨settings, script, plan, settled, loaded, told, runAs, -, -, wrote⟩ :=
    listing_is_plan rfl (on_of_fst listed) (on_of_fst ran)
  exact ⟨_, _, on_of_fst listed, on_of_fst ran, settings, script, plan, settled, loaded, told, runAs, wrote⟩

end Samples

end SpecTest
