import Mathlib.Data.List.Forall2
import SpecTest.Proofs.Run.Verdicts
import SpecTest.Proofs.Session.Suites

/-!
Which entry of a transcript tells the result of a test.

Tests are selected entry by entry, but an operation is called by its name alone, so that the first entry
of a name answers for all others of that name, whatever their numbers of parameters are.
-/

namespace SpecTest

open SpecTest.Data

section Judging

variable {codes : ViolationCodes} {v : Violation} {e : Expectation}

theorem CodeSet.contains_single (code other : Int64) :
    CodeSet.contains (Ascending.ofList [code]) other = (other == code) := by
  rw [Bool.eq_iff_iff]
  simp [contains, Ascending.ofList, Ascending.insert, Ascending.empty, insertBy]

theorem Expectation.judge_postcondition (violated : codes.categoryOf v.code = .postcondition) :
    (e.judge (.violated v) codes).1 ≠ .error := by
  simp only [judge, violated]
  split <;> simp

def ViolationCodes.none : ViolationCodes := ⟨Ascending.empty, Ascending.empty, Ascending.empty⟩

theorem ViolationCodes.none_categoryOf (code : Int64) :
    ViolationCodes.none.categoryOf code = .unrecognized := by
  simp [categoryOf, none, CodeSet.contains, Ascending.empty]

def ViolationCodes.onlyPostcondition (code : Int64) : ViolationCodes :=
  ⟨Ascending.empty, Ascending.ofList [code], Ascending.empty⟩

theorem ViolationCodes.onlyPostcondition_categoryOf (code other : Int64) :
    (onlyPostcondition code).categoryOf other =
      if other = code then .postcondition else .unrecognized := by
  simp only [categoryOf, onlyPostcondition, CodeSet.contains_single]
  by_cases same : other = code <;> simp [CodeSet.contains, Ascending.empty, same]

theorem Expectation.judge_returned_ne_error : (e.judge .returned codes).1 ≠ .error := by
  simp only [judge]
  split <;> simp

/-- Two outcomes are judged alike under all codes only if they are the same. -/
theorem Expectation.judge_inj {o other : Outcome} :
    (∀ codes, e.judge o codes = e.judge other codes) ↔ o = other := by
  refine ⟨fun alike => ?_, fun same _ => by rw [same]⟩
  have unrecognized (v : Violation) : e.judge (.violated v) .none = (.error, some v.message) :=
    judge_unrecognized (ViolationCodes.none_categoryOf v.code)
  have bare := alike .none
  cases o with
  | returned =>
      cases other with
      | returned => rfl
      | violated v =>
          rw [unrecognized v] at bare
          exact absurd (congrArg Prod.fst bare) judge_returned_ne_error
  | violated v =>
      cases other with
      | returned =>
          rw [unrecognized v] at bare
          exact absurd (congrArg Prod.fst bare).symm judge_returned_ne_error
      | violated u =>
          rw [unrecognized v, unrecognized u, Prod.mk.injEq, Option.some.injEq] at bare
          -- Codes that know the one violation and not the other tell them apart.
          have sameCode : u.code = v.code := by
            by_contra different
            have known := judge_postcondition (e := e) (v := v)
              (by rw [ViolationCodes.onlyPostcondition_categoryOf v.code, if_pos rfl])
            have unknown := judge_unrecognized (e := e) (v := u)
              (by rw [ViolationCodes.onlyPostcondition_categoryOf v.code, if_neg different])
            rw [alike, unknown] at known
            exact known rfl
          obtain ⟨-, sameMessage⟩ := bare
          cases v
          cases u
          cases sameCode
          cases sameMessage
          rfl

end Judging

section Running

variable {script : Script} {took : Nat → UInt64} {codes : ViolationCodes} {timestamp : Timestamp}

namespace Script

/-- Is the result that of the test, with the judgement on what the script tells of it? -/
structure Answers (s : Script) (codes : ViolationCodes) (moduleName test : String) (r : TestResult) : Prop where
  name : r.testName = test
  judged : (r.verdict, r.message) = (Expectation.ofName test).judge (s.call moduleName test) codes

/-- Are the results those of the suite, one for each of its tests in their order? -/
structure Tests (s : Script) (codes : ViolationCodes) (timestamp : Timestamp) (suite : Suite) (r : SuiteResult) :
    Prop where
  name : r.moduleName = suite.moduleName
  timestamp : r.timestamp = timestamp
  results : List.Forall₂ (s.Answers codes suite.moduleName) suite.tests r.results

theorem runTests_answer {moduleName : String} (tests : List String) {run : Run ScriptState}
    (entered : run.state.moduleName = moduleName) :
    List.Forall₂ (script.Answers codes moduleName) tests
      ((script.interpreter took).runTests codes moduleName tests run).1 := by
  induction tests generalizing run with
  | nil => exact .nil
  | cons test rest ih =>
      subst entered
      exact .cons ⟨rfl, rfl⟩ (ih rfl)

theorem runSuites_test (suites : List Suite) (run : Run ScriptState) :
    List.Forall₂ (script.Tests codes timestamp) suites
      ((script.interpreter took).runSuites codes timestamp suites run).1 := by
  induction suites generalizing run with
  | nil => exact .nil
  | cons suite rest ih => exact .cons ⟨rfl, rfl, runTests_answer suite.tests rfl⟩ (ih _)

/-- A run of a script gives the results of its suites, however long the calls take. -/
theorem run_tests (script : Script) (took : Nat → UInt64) (codes : ViolationCodes) (timestamp : Timestamp)
    (suites : List Suite) (state : ScriptState) :
    ∃ results, ((script.interpreter took).run codes timestamp suites state).1 = .ok results ∧
      List.Forall₂ (script.Tests codes timestamp) suites results :=
  ⟨_, rfl, runSuites_test suites _⟩

end Script

end Running

section Entries

/-- Where items are related to others one by one, something holds of the pairs where it holds of the items. -/
theorem forall₂_flip_iff_of_forall₂ {α β : Type} {related : α → β → Prop} {holds : β → α → Prop}
    {of : α → Prop} {items : List α} {others : List β} (pairs : List.Forall₂ related items others)
    (each : ∀ a ∈ items, ∀ b, related a b → (holds b a ↔ of a)) :
    List.Forall₂ holds others items ↔ ∀ a ∈ items, of a := by
  induction pairs with
  | nil => simp
  | cons first rest ih =>
      obtain ⟨here, later⟩ := List.forall_mem_cons.mp each
      rw [List.forall₂_cons, here _ first, ih later, List.forall_mem_cons]

variable {script : Script} {selector : Selector} {codes : ViolationCodes} {m : ScriptedModule}

def Script.info (s : Script) (m : ScriptedModule) : ModuleInfo :=
  ⟨m.name, m.files.map s.resolve, m.operations.map (·.info)⟩

/-- The modules of the transcript that the selector takes for test modules. -/
def Script.testModules (s : Script) (selector : Selector) : List ScriptedModule :=
  s.transcript.modules.filter fun m => selector.isTestModule (s.info m)

/-- The entries of the module that the selector takes for tests. -/
def ScriptedModule.testEntries (m : ScriptedModule) (selector : Selector) : List ScriptedOperation :=
  m.operations.filter fun o => selector.isTest o.info

def ScriptedModule.suite (m : ScriptedModule) (selector : Selector) : Suite :=
  ⟨m.name, (m.testEntries selector).map (·.name)⟩

theorem Script.discover_eq (s : Script) (selector : Selector) :
    selector.discover s.modules = (s.testModules selector).map (·.suite selector) := by
  have suites (m : ScriptedModule) : selector.suite (s.info m) = m.suite selector := by
    simp only [Selector.suite, info, ScriptedModule.suite, ScriptedModule.testEntries, List.filter_map,
      List.map_map, Function.comp_def, ScriptedOperation.info]
  have modules : s.modules = s.transcript.modules.map s.info := rfl
  rw [Selector.discover, modules, List.filter_map, List.map_map, testModules]
  exact List.map_congr_left fun m _ => suites m

/-- The entry that answers calls of the name. -/
def ScriptedModule.answering? (m : ScriptedModule) (operation : String) : Option ScriptedOperation :=
  m.operations.find? (·.name == operation)

theorem find?_name_of_mem {modules : List ScriptedModule} (distinct : (modules.map (·.name)).Nodup)
    (member : m ∈ modules) : modules.find? (·.name == m.name) = some m := by
  induction modules with
  | nil => contradiction
  | cons first rest ih =>
      rw [List.map_cons, List.nodup_cons] at distinct
      obtain ⟨fresh, distinct⟩ := distinct
      rcases List.mem_cons.mp member with rfl | inRest
      · exact List.find?_cons_of_pos (by simp)
      · have other : first.name ≠ m.name := fun same =>
          fresh (same ▸ List.mem_map_of_mem inRest)
        rw [List.find?_cons_of_neg (by simpa using other), ih distinct inRest]

theorem Script.call_of_answering (valid : script.transcript.validate = .ok ())
    (member : m ∈ script.transcript.modules) {operation : String} {answer : ScriptedOperation}
    (answers : m.answering? operation = some answer) :
    script.call m.name operation = answer.outcome := by
  have found := find?_name_of_mem (Transcript.validate_eq_ok_iff.mp valid) member
  rw [ScriptedModule.answering?] at answers
  simp only [call, found, Option.bind_some, answers]

theorem ScriptedModule.answering?_of_mem {o : ScriptedOperation} (member : o ∈ m.operations) :
    ∃ answer, m.answering? o.name = some answer :=
  Option.isSome_iff_exists.mp (List.find?_isSome.mpr ⟨o, member, by simp⟩)

/-- Is this the result of a test that ends as the entry tells? -/
def TestResult.IsOf (codes : ViolationCodes) (r : TestResult) (o : ScriptedOperation) : Prop :=
  r.testName = o.name ∧ (r.verdict, r.message) = (Expectation.ofName o.name).judge o.outcome codes

/-- Are these the results of the module's tests, the one of each entry at its place? -/
def SuiteResult.IsOf (codes : ViolationCodes) (selector : Selector) (s : SuiteResult)
    (m : ScriptedModule) : Prop :=
  s.moduleName = m.name ∧ List.Forall₂ (TestResult.IsOf codes) s.results (m.testEntries selector)

/-- Is each test judged as by its own entry, whichever entry answers in its place? -/
def Script.AnswersAlike (s : Script) (selector : Selector) (codes : ViolationCodes) : Prop :=
  ∀ m ∈ s.testModules selector, ∀ o ∈ m.testEntries selector, ∀ answer,
    m.answering? o.name = some answer →
      (Expectation.ofName o.name).judge answer.outcome codes =
        (Expectation.ofName o.name).judge o.outcome codes

/-- Does each test end as its own entry tells, whichever entry answers in its place? -/
def Script.AnswersOwn (s : Script) (selector : Selector) : Prop :=
  ∀ m ∈ s.testModules selector, ∀ o ∈ m.testEntries selector, ∀ answer,
    m.answering? o.name = some answer → answer.outcome = o.outcome

theorem Script.Answers.isOf_iff (valid : script.transcript.validate = .ok ())
    (member : m ∈ script.transcript.modules) {o : ScriptedOperation} (listed : o ∈ m.operations) {r : TestResult}
    (answered : script.Answers codes m.name o.name r) : r.IsOf codes o ↔
      ∀ answer, m.answering? o.name = some answer →
        (Expectation.ofName o.name).judge answer.outcome codes =
          (Expectation.ofName o.name).judge o.outcome codes := by
  obtain ⟨answer, answers⟩ := ScriptedModule.answering?_of_mem listed
  have called := call_of_answering valid member answers
  simp [TestResult.IsOf, answered.name, answered.judged, called, answers]

theorem Script.Tests.isOf_iff (valid : script.transcript.validate = .ok ())
    (member : m ∈ script.transcript.modules) {timestamp : Timestamp} {r : SuiteResult}
    (tested : script.Tests codes timestamp (m.suite selector) r) : r.IsOf codes selector m ↔
      ∀ o ∈ m.testEntries selector, ∀ answer, m.answering? o.name = some answer →
        (Expectation.ofName o.name).judge answer.outcome codes =
          (Expectation.ofName o.name).judge o.outcome codes := by
  have results := tested.results
  rw [ScriptedModule.suite, List.forall₂_map_left_iff] at results
  have name : r.moduleName = m.name := tested.name
  rw [SuiteResult.IsOf, and_iff_right name]
  exact forall₂_flip_iff_of_forall₂ results fun o chosen r answered =>
    answered.isOf_iff valid member (List.mem_filter.mp chosen).1

theorem Script.suiteResults_isOf_iff (valid : script.transcript.validate = .ok ()) {timestamp : Timestamp}
    {results : List SuiteResult}
    (tested : List.Forall₂ (script.Tests codes timestamp) (selector.discover script.modules) results) :
    List.Forall₂ (SuiteResult.IsOf codes selector) results (script.testModules selector) ↔
      script.AnswersAlike selector codes := by
  rw [discover_eq, List.forall₂_map_left_iff] at tested
  exact forall₂_flip_iff_of_forall₂ tested fun m selected r tested =>
    tested.isOf_iff valid (List.mem_filter.mp selected).1

/-- A run of the tests that were found in a transcript gives each test the result of its own entry exactly
where the entry that answers in its place is judged alike.  Under all codes that is where the two have
the same outcome. -/
theorem run_discovered_isOf_iff (valid : script.transcript.validate = .ok ()) (selector : Selector) :
    (∀ (took : Nat → UInt64) (codes : ViolationCodes) (timestamp : Timestamp) (state : ScriptState), ∃ results,
      ((script.interpreter took).run codes timestamp (selector.discover script.modules) state).1 = .ok results ∧
        (List.Forall₂ (SuiteResult.IsOf codes selector) results (script.testModules selector) ↔
          script.AnswersAlike selector codes)) ∧
      ((∀ codes, script.AnswersAlike selector codes) ↔ script.AnswersOwn selector) := by
  constructor
  · intro took codes timestamp state
    obtain ⟨results, gives, tested⟩ :=
      script.run_tests took codes timestamp (selector.discover script.modules) state
    exact ⟨results, gives, Script.suiteResults_isOf_iff valid tested⟩
  · constructor
    · intro agree m selected o chosen answer answers
      exact Expectation.judge_inj.mp fun codes => agree codes m selected o chosen answer answers
    · intro same codes m selected o chosen answer answers
      exact Expectation.judge_inj.mpr (same m selected o chosen answer answers) codes

end Entries

section Samples

/-- A test with an operation of its name and one parameter behind it. -/
def overloadedBehind : Script where
  transcript.modules := [⟨"TestStack", [], [⟨"TestPush", 0, .returned⟩,
    ⟨"TestPush", 1, .violated ⟨4071, "pre_Push"⟩⟩]⟩]
  baseDir := ⟨""⟩

theorem run_discovered_isOf_iff_overloadedBehind :
    overloadedBehind.transcript.validate = .ok () ∧
    (∀ (took : Nat → UInt64) (codes : ViolationCodes) (timestamp : Timestamp) (state : ScriptState), ∃ results,
      ((overloadedBehind.interpreter took).run codes timestamp
        (({} : Selector).discover overloadedBehind.modules) state).1 = .ok results ∧
        (List.Forall₂ (SuiteResult.IsOf codes {}) results (overloadedBehind.testModules {}) ↔
          overloadedBehind.AnswersAlike {} codes)) ∧
      ((∀ codes, overloadedBehind.AnswersAlike {} codes) ↔ overloadedBehind.AnswersOwn {}) :=
  ⟨rfl, run_discovered_isOf_iff rfl {}⟩

/-- The same operation stands before the test. -/
def overloadedBefore : Script where
  transcript.modules := [⟨"TestStack", [], [⟨"TestPush", 1, .violated ⟨4071, "pre_Push"⟩⟩,
    ⟨"TestPush", 0, .returned⟩]⟩]
  baseDir := ⟨""⟩

/-- A test is an error because an operation with a parameter is called in its place. -/
theorem run_discovered_not_isOf :
    ¬ ∀ (script : Script) (took : Nat → UInt64) (selector : Selector) (codes : ViolationCodes)
        (timestamp : Timestamp) (state : ScriptState) (results : List SuiteResult),
      script.transcript.validate = .ok () →
      ((script.interpreter took).run codes timestamp (selector.discover script.modules) state).1 =
        .ok results →
      List.Forall₂ (SuiteResult.IsOf codes selector) results (script.testModules selector) := by
  intro allOwn
  have own := allOwn overloadedBefore (fun _ => 0) {} {} ⟨2024, 3, 1, 9, 5, 7, 0⟩ {} _ rfl rfl
  obtain ⟨⟨-, tests⟩, -⟩ := List.forall₂_cons.mp own
  obtain ⟨⟨-, judged⟩, -⟩ := List.forall₂_cons.mp tests
  exact absurd judged (by decide +kernel)

end Samples

end SpecTest
