import SpecTest.Proofs.Run.Memory
import SpecTest.Proofs.Run.Protocol
import SpecTest.Proofs.Session.Counts
import SpecTest.Proofs.Text.Digits
import SpecTest.Proofs.Text.Splitting

/-!
What a run logs: a line for each test in the order of the tests, from which the verdict can be read.
-/

namespace SpecTest

open SpecTest.Data

/-- The level and the text with which the line on a verdict starts. -/
def Verdict.lineStart : Verdict → LogEvent
  | pass => ⟨.debug, "PASS .. "⟩
  | fail => ⟨.info, "FAIL .. "⟩
  | error => ⟨.info, "ERRR .. "⟩

namespace LogEvent

variable {e start other : LogEvent} {v : Verdict}

def Continues (e start : LogEvent) : Prop :=
  e.level = start.level ∧ start.message.toList <+: e.message.toList

instance (e start : LogEvent) : Decidable (e.Continues start) := inferInstanceAs (Decidable (_ ∧ _))

/-- The verdict that is read from a line, if it tells of one. -/
def verdict? (e : LogEvent) : Option Verdict :=
  [Verdict.pass, .fail, .error].find? fun v => e.Continues v.lineStart

def IsSummary (e : LogEvent) : Prop :=
  e.Continues ⟨.info, "SUCCESS -- "⟩ ∨ e.Continues ⟨.info, "FAILURE -- "⟩

instance (e : LogEvent) : Decidable e.IsSummary := inferInstanceAs (Decidable (_ ∨ _))

/-- Does the line tell where a document was written? -/
def IsPlace (e : LogEvent) : Prop := e.Continues ⟨.debug, "wrote "⟩

/-- Is there no line that continues both? -/
def Apart (start other : LogEvent) : Prop :=
  start.level ≠ other.level ∨ ¬ start.message.toList <+: other.message.toList ∧
    ¬ other.message.toList <+: start.message.toList

instance (start other : LogEvent) : Decidable (start.Apart other) := inferInstanceAs (Decidable (_ ∨ _))

theorem continues_append (level : LogLevel) (text rest : String) :
    Continues ⟨level, text ++ rest⟩ ⟨level, text⟩ := ⟨rfl, by simp⟩

theorem Continues.not_continues (continues : e.Continues start) (apart : start.Apart other) :
    ¬ e.Continues other := by
  intro both
  rcases apart with levels | ⟨notBefore, notAfter⟩
  · exact levels (continues.1.symm.trans both.1)
  · exact (List.prefix_or_prefix_of_prefix continues.2 both.2).elim notBefore notAfter

theorem lineStart_apart {u : Verdict} (different : v ≠ u) : v.lineStart.Apart u.lineStart := by
  cases v <;> cases u <;> first | contradiction | decide

theorem verdict?_eq_some (continues : e.Continues v.lineStart) : e.verdict? = some v := by
  cases found : e.verdict? with
  | none =>
      have absent := List.find?_eq_none.mp found v (by cases v <;> simp)
      exact absurd (decide_eq_true continues) absent
  | some u =>
      have holds := List.find?_some found
      have continuesToo : e.Continues u.lineStart := of_decide_eq_true holds
      by_contra different
      have apart : v ≠ u := fun same => different (congrArg some same.symm)
      exact continues.not_continues (lineStart_apart apart) continuesToo

theorem verdict?_eq_none (continues : e.Continues start) (apart : ∀ v, start.Apart (Verdict.lineStart v)) :
    e.verdict? = none := by
  refine List.find?_eq_none.mpr fun v _ found => ?_
  exact continues.not_continues (apart v) (of_decide_eq_true found)

theorem IsSummary.verdict?_eq_none (summary : e.IsSummary) : e.verdict? = none := by
  rcases summary with success | failure
  · exact LogEvent.verdict?_eq_none success fun v => by cases v <;> decide
  · exact LogEvent.verdict?_eq_none failure fun v => by cases v <;> decide

theorem IsPlace.verdict?_eq_none (place : e.IsPlace) : e.verdict? = none :=
  LogEvent.verdict?_eq_none place fun v => by cases v <;> decide

theorem IsPlace.not_isSummary (place : e.IsPlace) : ¬ e.IsSummary :=
  not_or.mpr ⟨place.not_continues (by decide), place.not_continues (by decide)⟩

end LogEvent

theorem RunSummary.isSummary (s : RunSummary) : LogEvent.IsSummary ⟨.info, s.text⟩ := by
  rw [text]
  split
  · rw [String.append_assoc]
    exact .inl (LogEvent.continues_append _ _ _)
  · simp only [String.append_assoc]
    exact .inr (LogEvent.continues_append _ _ _)

section Numbers

open SpecTest.Text

/-- The numbers in the words of a text, whatever stands around their digits. -/
def numbersIn (text : String) : List Nat :=
  (split ' ' text).filterMap fun word => natIn? 10 (word.toList.filter (·.isDigit))

/-- The summary that is read from a line: a success tells the tests, and anything else the failures and the
errors too. -/
def RunSummary.read? (line : String) : Option RunSummary :=
  match numbersIn line with
  | [tests] => some ⟨tests, 0, 0⟩
  | [failures, errors, tests] => some ⟨tests, failures, errors⟩
  | _ => none

theorem numbersIn_append (front back : String) :
    numbersIn (front ++ " " ++ back) = numbersIn front ++ numbersIn back := by
  have words : split ' ' (front ++ " " ++ back) = split ' ' front ++ split ' ' back := split_append_sep front back
  rw [numbersIn, words, List.filterMap_append]
  rfl

/-- A number is read from the word in which it stands behind something else. -/
theorem numbersIn_of_word (before : String) (n : Nat) (plain : ' ' ∉ before.toList)
    (noDigit : before.toList.filter (·.isDigit) = []) : numbersIn (before ++ toString n) = [n] := by
  have digits : (toString n).toList = Nat.toDigits 10 n := by rw [Nat.toString_eq_repr, Nat.toList_repr]
  have oneWord : ' ' ∉ (before ++ toString n).toList := by
    rw [String.toList_append, List.mem_append, digits, not_or]
    exact ⟨plain, not_mem_toDigits (by decide) n⟩
  have read : natIn? 10 ((before ++ toString n).toList.filter (·.isDigit)) = some n := by
    rw [String.toList_append, List.filter_append, noDigit, List.nil_append, digits,
      List.filter_eq_self.mpr (isDigit_of_mem_toDigits n), natIn?_toDigits]
  rw [numbersIn, split_of_plain oneWord, List.filterMap_cons, read, List.filterMap_nil]

theorem numbersIn_toString (n : Nat) : numbersIn (toString n) = [n] :=
  numbersIn_of_word "" n (by simp) (by simp)

theorem numbersIn_success (tests : Nat) :
    numbersIn ("SUCCESS -- " ++ toString tests ++ " tests passed") = [tests] := by
  have line : "SUCCESS -- " ++ toString tests ++ " tests passed" =
      "SUCCESS --" ++ " " ++ (toString tests ++ " " ++ "tests passed") :=
    String.toList_inj.mp (by simp)
  have words : numbersIn "SUCCESS --" = [] ∧ numbersIn "tests passed" = [] := by decide
  rw [line, numbersIn_append, numbersIn_append, numbersIn_toString, words.1, words.2]
  rfl

theorem numbersIn_failure (failures errors tests : Nat) :
    numbersIn ("FAILURE -- " ++ toString failures ++ " tests failed, " ++ toString errors ++
      " tests had errors [" ++ toString tests ++ " tests were run]") = [failures, errors, tests] := by
  have line : "FAILURE -- " ++ toString failures ++ " tests failed, " ++ toString errors ++
      " tests had errors [" ++ toString tests ++ " tests were run]" =
      "FAILURE --" ++ " " ++ (toString failures ++ " " ++ ("tests failed," ++ " " ++ (toString errors ++ " " ++
        ("tests had errors" ++ " " ++ ("[" ++ toString tests ++ " " ++ "tests were run]"))))) :=
    String.toList_inj.mp (by simp)
  have bracketed : numbersIn ("[" ++ toString tests) = [tests] :=
    numbersIn_of_word "[" tests (by decide) (by decide)
  have words : numbersIn "FAILURE --" = [] ∧ numbersIn "tests failed," = [] ∧
      numbersIn "tests had errors" = [] ∧ numbersIn "tests were run]" = [] := by decide
  obtain ⟨failure, failed, had, were⟩ := words
  simp only [line, numbersIn_append, numbersIn_toString, bracketed, failure, failed, had, were]
  rfl

/-- The numbers of a summary are read back from its line. -/
theorem RunSummary.read?_text (s : RunSummary) : read? s.text = some s := by
  obtain ⟨tests, failures, errors⟩ := s
  cases success : succeeded ⟨tests, failures, errors⟩ with
  | true =>
      have none : failures = 0 ∧ errors = 0 := by simpa [succeeded] using success
      rw [read?, text, if_pos success, numbersIn_success, none.1, none.2]
  | false =>
      rw [read?, text, success, if_neg Bool.false_ne_true, numbersIn_failure]

end Numbers

section Telling

variable {e : LogEvent} {j : Judgement} {judgements : List Judgement} {lines others : List LogEvent}

/-- Is this the line on the judgement?  The line on a pass names the test, any other ends with the message. -/
def Judgement.ToldBy : Judgement → LogEvent → Prop
  | ((moduleName, test), .pass, _), e => e = ⟨.debug, "PASS .. " ++ moduleName ++ "`" ++ test⟩
  | ((moduleName, test), .fail, message), e => ∃ text, message = some text ∧
      e = ⟨.info, "FAIL .. " ++ moduleName ++ "`" ++ test ++ " -- " ++ text⟩
  | ((moduleName, test), .error, message), e => ∃ text, message = some text ∧
      e = ⟨.info, "ERRR .. " ++ moduleName ++ "`" ++ test ++ " -- " ++ text⟩

theorem Judgement.ToldBy.verdict?_eq (told : j.ToldBy e) : e.verdict? = some j.2.1 := by
  apply LogEvent.verdict?_eq_some
  obtain ⟨⟨moduleName, test⟩, verdict, message⟩ := j
  cases verdict with
  | pass =>
      cases told
      simp only [String.append_assoc]
      exact LogEvent.continues_append _ _ _
  | fail =>
      obtain ⟨text, -, rfl⟩ := told
      simp only [String.append_assoc]
      exact LogEvent.continues_append _ _ _
  | error =>
      obtain ⟨text, -, rfl⟩ := told
      simp only [String.append_assoc]
      exact LogEvent.continues_append _ _ _

theorem verdict?_isSome_of_told (told : List.Forall₂ Judgement.ToldBy judgements lines) :
    ∀ e ∈ lines, e.verdict?.isSome := by
  induction told with
  | nil => simp
  | cons tells _ ih =>
      refine List.forall_mem_cons.mpr ⟨?_, ih⟩
      rw [tells.verdict?_eq]
      rfl

/-- The lines on judgements are all that a log says of verdicts, if its other lines say nothing of them. -/
theorem filter_of_told (told : List.Forall₂ Judgement.ToldBy judgements lines)
    (silent : ∀ e ∈ others, e.verdict? = none) :
    (lines ++ others).filter (·.verdict?.isSome) = lines := by
  rw [List.filter_append, List.filter_eq_self.mpr (verdict?_isSome_of_told told),
    List.filter_eq_nil_iff.mpr fun e member => by simp [silent e member], List.append_nil]

theorem filterMap_of_told (told : List.Forall₂ Judgement.ToldBy judgements lines)
    (silent : ∀ e ∈ others, e.verdict? = none) :
    (lines ++ others).filterMap (·.verdict?) = judgements.map (·.2.1) := by
  rw [List.filterMap_append, List.filterMap_eq_nil_iff.mpr silent, List.append_nil]
  induction told with
  | nil => rfl
  | cons tells _ ih => rw [List.filterMap_cons_some tells.verdict?_eq, ih, List.map_cons]

theorem not_isSummary_of_told (told : List.Forall₂ Judgement.ToldBy judgements lines) :
    ∀ e ∈ lines, ¬ e.IsSummary := by
  intro e member summary
  have isSome := verdict?_isSome_of_told told e member
  rw [summary.verdict?_eq_none] at isSome
  cases isSome

end Telling

section Lines

variable {σ : Type} {i : Interpreter σ} {codes : ViolationCodes} {timestamp : Timestamp}

def Run.logEvents (run : Run σ) : List LogEvent := run.events.reverse.flatMap (·.logEvents)

def SuiteResult.logEvents (s : SuiteResult) : List LogEvent := s.results.map (·.logEvent s.moduleName)

theorem Interpreter.runTest_logEvents (moduleName test : String) (run : Run σ) :
    (i.runTest codes moduleName test run).2.logEvents =
      run.logEvents ++ [(i.runTest codes moduleName test run).1.logEvent moduleName] := by
  simp only [Run.logEvents, runTest, Bench.runTest, observed, List.reverse_cons, List.flatMap_append,
    List.flatMap_singleton]
  rfl

theorem Interpreter.runTests_logEvents (moduleName : String) (tests : List String) (run : Run σ) :
    (i.runTests codes moduleName tests run).2.logEvents =
      run.logEvents ++ (i.runTests codes moduleName tests run).1.map (·.logEvent moduleName) := by
  induction tests generalizing run with
  | nil => exact (List.append_nil _).symm
  | cons test rest ih =>
      have later := ih (i.runTest codes moduleName test run).2
      rw [runTest_logEvents, List.append_assoc] at later
      exact later

theorem Interpreter.runSuite_logEvents (suite : Suite) (run : Run σ) :
    (i.runSuite codes timestamp suite run).2.logEvents =
      run.logEvents ++ (i.runSuite codes timestamp suite run).1.logEvents := by
  -- The suite and its module are events of the run too, but nothing is logged for them.
  have entered : (i.observed.enter suite.moduleName (i.observed.suiteStarted suite run)).logEvents =
      run.logEvents := by
    simp [Run.logEvents, observed, RunEvent.logEvents]
  rw [← entered]
  exact i.runTests_logEvents suite.moduleName suite.tests _

theorem Interpreter.runSuites_logEvents (suites : List Suite) (run : Run σ) :
    (i.runSuites codes timestamp suites run).2.logEvents =
      run.logEvents ++ (i.runSuites codes timestamp suites run).1.flatMap (·.logEvents) := by
  induction suites generalizing run with
  | nil => exact (List.append_nil _).symm
  | cons suite rest ih =>
      have later := ih (i.runSuite codes timestamp suite run).2
      rw [runSuite_logEvents, List.append_assoc] at later
      exact later

end Lines

section Judgements

variable {codes : ViolationCodes} {timestamp : Timestamp}

theorem TestResult.Follows.logEvent_tells {o : Outcome} {r : TestResult} (follows : r.Follows codes o)
    (moduleName : String) :
    Judgement.ToldBy ((moduleName, r.testName), r.verdict, r.message) (r.logEvent moduleName) := by
  have silent := follows.silent
  obtain ⟨test, millis, verdict, message⟩ := r
  cases verdict with
  | pass => simp [logEvent, Judgement.ToldBy, qualified, Verdict.isPass, String.append_assoc]
  | fail =>
      cases message with
      | none => cases silent.mp rfl
      | some text =>
          simp [logEvent, Judgement.ToldBy, qualified, Verdict.isPass, Verdict.label, String.append_assoc]
  | error =>
      cases message with
      | none => cases silent.mp rfl
      | some text =>
          simp [logEvent, Judgement.ToldBy, qualified, Verdict.isPass, Verdict.label, String.append_assoc]

theorem Suite.answered_tells (suite : Suite) (asked : List (String × Answer)) :
    List.Forall₂ Judgement.ToldBy (suite.answered codes timestamp asked).judgements
      (suite.answered codes timestamp asked).logEvents := by
  simp only [SuiteResult.judgements, SuiteResult.logEvents, answered, List.map_map,
    List.forall₂_map_left_iff, List.forall₂_map_right_iff]
  refine List.forall₂_same.mpr fun test _ => ?_
  exact (TestResult.ofOutcome_follows codes test.1 test.2.1 test.2.2).logEvent_tells suite.moduleName

theorem Suite.answered_calls {suite : Suite} {asked : List (String × Answer)}
    (named : asked.map (·.1) = suite.tests) :
    (suite.answered codes timestamp asked).judgements.map (·.1) = suite.calls := by
  rw [calls, ← named]
  simp only [SuiteResult.judgements, answered, List.map_map]
  rfl

/-- A run that can start logs one line for each test, in order, and nothing else. -/
theorem Interpreter.run_logEvents {σ : Type} {i : Interpreter σ} {state : σ}
    (ready : (i.reset state).1 = .ok ()) (codes : ViolationCodes) (timestamp : Timestamp)
    (suites : List Suite) :
    ∃ results, (i.run codes timestamp suites state).1 = .ok results ∧
      (results.flatMap (·.judgements)).map (·.1) = suites.flatMap Suite.calls ∧
      List.Forall₂ Judgement.ToldBy (results.flatMap (·.judgements))
        (i.run codes timestamp suites state).2.logEvents := by
  rcases answer : i.reset state with ⟨done, after⟩
  rw [answer] at ready
  cases ready
  have ran : i.run codes timestamp suites state =
      (.ok (i.runSuites codes timestamp suites ⟨after, []⟩).1,
        (i.runSuites codes timestamp suites ⟨after, []⟩).2) := by
    simp only [run, Bench.run, observed, answer]
    rfl
  have lines : (i.runSuites codes timestamp suites ⟨after, []⟩).2.logEvents =
      (i.runSuites codes timestamp suites ⟨after, []⟩).1.flatMap (·.logEvents) :=
    i.runSuites_logEvents suites ⟨after, []⟩
  -- Each result is made of the answer to a call, from which its message follows.
  obtain ⟨asked, inOrder, named, results, -⟩ :=
    i.observed.traced_runSuites codes timestamp suites ⟨after, []⟩ []
  rw [ran]
  refine ⟨_, rfl, ?_, ?_⟩
  · rw [runSuites, results, List.flatMap_map, List.map_flatMap, ← inOrder, List.flatMap_map]
    exact List.flatMap_congr fun s member => Suite.answered_calls (named s member)
  · dsimp only
    rw [lines, runSuites, results, List.flatMap_map, List.flatMap_map]
    refine List.rel_flatMap (R := Eq) (List.forall₂_same.mpr fun _ _ => rfl) ?_
    intro s _ same
    cases same
    exact s.1.answered_tells s.2

/-- The summary counts the verdicts of the judgements. -/
theorem RunSummary.ofResults_verdicts (results : List SuiteResult) :
    RunSummary.ofResults results =
      ⟨((results.flatMap (·.judgements)).map (·.2.1)).length,
        ((results.flatMap (·.judgements)).map (·.2.1)).count .fail,
        ((results.flatMap (·.judgements)).map (·.2.1)).count .error⟩ := by
  have verdicts : (results.flatMap (·.judgements)).map (·.2.1) =
      results.flatMap fun s => s.results.map (·.verdict) := by
    simp only [List.map_flatMap, SuiteResult.judgements, List.map_map]
    rfl
  have counted (v : Verdict) : (results.flatMap fun s => s.results.map (·.verdict)).count v =
      sumOf (results.map (·.count v)) := by
    rw [List.count_eq_length_filter, List.filter_flatMap, length_flatMap_eq_sumOf]
    simp only [List.filter_map, List.length_map]
    rfl
  rw [verdicts, counted, counted, length_flatMap_eq_sumOf, ofResults_eq]
  simp only [List.length_map]
  rfl

end Judgements

end SpecTest
