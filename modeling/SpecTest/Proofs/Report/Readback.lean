import SpecTest.Proofs.Markup.References
import SpecTest.Proofs.Report.Documents

/-!
Reading the results of a suite back from its document.

The document tells everything but the message of a test that passed, so that two suites with one document
have the same results.
-/

namespace SpecTest.Report

open SpecTest.Markup SpecTest.Text

variable {s t : SuiteResult} {r q : TestResult} {hostname other : String}

structure CaseRecord where
  testName : String
  millis : Nat
  verdict : Verdict
  message : String
deriving DecidableEq, Repr

/-- What the document of a suite tells of it. -/
structure SuiteRecord where
  moduleName : String
  hostname : String
  timestamp : String
  cases : List CaseRecord
deriving DecidableEq, Repr

/-- A result as it is recorded: without a message if the test passed, and with an empty one if there is none. -/
def caseRecord (r : TestResult) : CaseRecord :=
  ⟨r.testName, r.millis.toNat, r.verdict, if r.verdict.isPass then "" else r.message.getD ""⟩

def suiteRecord (s : SuiteResult) (hostname : String) : SuiteRecord :=
  ⟨s.moduleName, hostname, s.timestamp.plainText, s.results.map caseRecord⟩

section Reader

def value? (name : String) (attributes : List (String × String)) : Option String :=
  (attributes.lookup name).bind unescape?

/-- Reads seconds with three digits behind the point. -/
def readMillis? (text : String) : Option Nat :=
  match split '.' text with
  | [seconds, millis] => do
    return (← natIn? 10 seconds.toList) * 1000 + (← natIn? 10 millis.toList)
  | _ => none

def problemVerdict? (tag : String) : Option Verdict :=
  [.fail, .error].find? fun v => problemTag? v == some tag

def readCase? (attributes : List (String × String)) (verdict : Verdict) (message : String) :
    Option CaseRecord := do
  let testName ← value? "name" attributes
  let millis ← readMillis? (← value? "time" attributes)
  return ⟨testName, millis, verdict, message⟩

/-- Reads cases: an empty one passed, and another one has its problem inside. -/
def readCases? : List Tag → Option (List CaseRecord)
  | [] => some []
  | .opening _ attributes true :: rest => do
    return (← readCase? attributes .pass "") :: (← readCases? rest)
  | .opening _ attributes false :: .opening problem details true :: .closing _ :: rest => do
    let verdict ← problemVerdict? problem
    let message ← value? "message" details
    return (← readCase? attributes verdict message) :: (← readCases? rest)
  | _ => none

def readSuite? (document : String) : Option SuiteRecord :=
  match tagsOf document.toList with
  | .instruction _ :: .opening _ attributes isEmpty :: rest => do
    let cases ← readCases? (if isEmpty then rest else rest.dropLast)
    return ⟨← value? "name" attributes, ← value? "hostname" attributes,
      ← value? "timestamp" attributes, cases⟩
  | _ => none

end Reader

section Reading

theorem value?_escapeValues (name : String) (attributes : List (String × String)) :
    value? name (escapeValues attributes) = attributes.lookup name := by
  rw [value?, lookup_escapeValues]
  cases attributes.lookup name with
  | none => rfl
  | some value => rw [Option.map_some, Option.bind_some, unescape?_escape]

theorem split_secondsText (millis : UInt64) : split '.' (secondsText millis) =
    [toString (millis.toNat / 1000), padded 3 (millis.toNat % 1000)] := by
  have noPoint : '.' ∉ (toString (millis.toNat / 1000)).toList := by
    rw [Nat.toString_eq_repr, Nat.toList_repr]
    exact not_mem_toDigits (by decide) _
  have noPointBehind : '.' ∉ (padded 3 (millis.toNat % 1000)).toList := by
    intro member
    exact absurd (isDigit_of_mem_padded member) (by decide)
  have cut : split '.' (toString (millis.toNat / 1000) ++ "." ++ padded 3 (millis.toNat % 1000)) = _ :=
    split_append_sep _ _
  rwa [split_of_plain noPoint, split_of_plain noPointBehind] at cut

theorem readMillis?_secondsText (millis : UInt64) : readMillis? (secondsText millis) = some millis.toNat := by
  rw [readMillis?, split_secondsText]
  dsimp only
  rw [natIn?_padded, natIn?_toString]
  have whole := Nat.div_add_mod' millis.toNat 1000
  simp [whole]

theorem problemVerdict?_eq_some {v : Verdict} {problem : String} (marks : problemTag? v = some problem) :
    problemVerdict? problem = some v := by
  rcases problemTag?_eq_some_iff.mp marks with ⟨rfl, rfl⟩ | ⟨rfl, rfl⟩
  · decide
  · decide

theorem readCase?_caseAttributes (moduleName : String) (r : TestResult) (verdict : Verdict)
    (message : String) : readCase? (escapeValues (caseAttributes moduleName r)) verdict message =
      some ⟨r.testName, r.millis.toNat, verdict, message⟩ := by
  have name : value? "name" (escapeValues (caseAttributes moduleName r)) = some r.testName :=
    value?_escapeValues _ _
  have time : value? "time" (escapeValues (caseAttributes moduleName r)) = some (secondsText r.millis) :=
    value?_escapeValues _ _
  simp [readCase?, name, time, readMillis?_secondsText]

theorem readCases?_caseTags (moduleName : String) (r : TestResult) (rest : List Tag) :
    readCases? (caseTags moduleName r ++ rest) = (readCases? rest).map (caseRecord r :: ·) := by
  cases marks : problemTag? r.verdict with
  | none =>
      have passed : r.verdict = .pass := by
        cases verdict : r.verdict <;> simp [problemTag?, verdict] at marks ⊢
      have recorded : caseRecord r = ⟨r.testName, r.millis.toNat, .pass, ""⟩ := by
        simp [caseRecord, passed, Verdict.isPass]
      simp only [caseTags, marks, List.singleton_append, readCases?, readCase?_caseAttributes, recorded]
      cases readCases? rest <;> rfl
  | some problem =>
      have failed := isPass_of_problem marks
      have message : value? "message" (escapeValues (problemAttributes r)) = some (r.message.getD "") :=
        value?_escapeValues _ _
      have recorded : caseRecord r = ⟨r.testName, r.millis.toNat, r.verdict, r.message.getD ""⟩ := by
        simp [caseRecord, failed]
      simp only [caseTags, marks, List.cons_append, List.nil_append, readCases?,
        problemVerdict?_eq_some marks, message, readCase?_caseAttributes, recorded]
      cases readCases? rest <;> rfl

theorem readCases?_flatMap (moduleName : String) (results : List TestResult) :
    readCases? (results.flatMap (caseTags moduleName)) = some (results.map caseRecord) := by
  induction results with
  | nil => rfl
  | cons r results ih =>
      rw [List.flatMap_cons, readCases?_caseTags, ih]
      rfl

/-- The record of a suite is read back from its document, whatever its texts look like. -/
theorem readSuite?_junitText (s : SuiteResult) (millis : UInt64) (hostname : String) :
    readSuite? (junitText s millis hostname) = some (suiteRecord s hostname) := by
  have inside : readCases? (if s.results.isEmpty then
      s.results.flatMap (caseTags s.moduleName) ++ (if s.results.isEmpty then [] else [Tag.closing "testsuite"])
      else (s.results.flatMap (caseTags s.moduleName) ++
        (if s.results.isEmpty then [] else [Tag.closing "testsuite"])).dropLast) =
      some (s.results.map caseRecord) := by
    rw [← readCases?_flatMap s.moduleName]
    cases s.results.isEmpty <;> simp
  have found (name : String) : value? name (escapeValues (suiteAttributes s millis hostname)) =
      (suiteAttributes s millis hostname).lookup name := value?_escapeValues _ _
  rw [readSuite?, tagsOf_junitText, suiteTags, declarationTag]
  dsimp only
  rw [inside, found, found, found]
  rfl

end Reading

section Telling

variable {α : Type} {results others : List TestResult}

/-- What is told of each result by its record is told of all results by their records. -/
theorem map_eq_of_records {f : TestResult → α} (told : ∀ r q, caseRecord r = caseRecord q → f r = f q)
    (same : results.map caseRecord = others.map caseRecord) : results.map f = others.map f := by
  induction results generalizing others with
  | nil =>
      rw [List.map_eq_nil_iff.mp same.symm]
  | cons r results ih =>
      cases others with
      | nil => simp at same
      | cons q others =>
          rw [List.map_cons, List.map_cons, List.cons.injEq] at same
          rw [List.map_cons, List.map_cons, told r q same.1, ih same.2]

theorem millis_eq_of_record (same : caseRecord r = caseRecord q) : r.millis = q.millis :=
  UInt64.toNat_inj.mp (congrArg CaseRecord.millis same)

theorem verdict_eq_of_record (same : caseRecord r = caseRecord q) : r.verdict = q.verdict :=
  congrArg CaseRecord.verdict same

theorem testCase_eq_of_record (moduleName : String) (same : caseRecord r = caseRecord q) :
    testCase moduleName r = testCase moduleName q := by
  have names : r.testName = q.testName := congrArg CaseRecord.testName same
  have verdicts := verdict_eq_of_record same
  have messages := congrArg CaseRecord.message same
  rw [testCase, testCase, names, millis_eq_of_record same, verdicts]
  cases marks : problemTag? q.verdict with
  | none => rfl
  | some problem =>
      have failed := isPass_of_problem marks
      simp only [caseRecord, verdicts, failed, Bool.false_eq_true, if_false] at messages
      rw [messages]

theorem count_eq_of_verdicts (same : s.results.map (·.verdict) = t.results.map (·.verdict)) (v : Verdict) :
    s.count v = t.count v := by
  have counted (u : SuiteResult) : u.count v = ((u.results.map (·.verdict)).filter (· == v)).length := by
    rw [List.filter_map, List.length_map]
    rfl
  rw [counted, counted, same]

theorem junit_eq_of_record (same : suiteRecord s hostname = suiteRecord t other) :
    junit s hostname = junit t other := by
  obtain ⟨moduleNames, hostnames, timestamps, cases⟩ := SuiteRecord.mk.inj same
  have texts := map_eq_of_records (fun r q => testCase_eq_of_record t.moduleName) cases
  have millis := map_eq_of_records (fun r q => millis_eq_of_record) cases
  have counts := count_eq_of_verdicts (map_eq_of_records (fun r q => verdict_eq_of_record) cases)
  have lengths : s.testCount = t.testCount := by
    have sameLength := congrArg List.length cases
    rwa [List.length_map, List.length_map] at sameLength
  have emptiness : s.results.isEmpty = t.results.isEmpty := by
    have sameMap := congrArg List.isEmpty cases
    rwa [List.isEmpty_map, List.isEmpty_map] at sameMap
  simp only [junit, junitText, SuiteResult.millis?, moduleNames, hostnames, timestamps, texts, millis, counts,
    lengths, emptiness]

end Telling

/-- The record of a suite can be read from its document, and two suites have the same document exactly where
they have the same record. -/
theorem junit_determines_record (fits : s.totalMillis < UInt64.size) (otherFits : t.totalMillis < UInt64.size) :
    ∃ document otherDocument, junit s hostname = .ok document ∧ junit t other = .ok otherDocument ∧
      readSuite? document = some (suiteRecord s hostname) ∧
      readSuite? otherDocument = some (suiteRecord t other) ∧
      (document = otherDocument ↔ suiteRecord s hostname = suiteRecord t other) := by
  obtain ⟨document, made⟩ := exists_junit_iff.mpr fits
  obtain ⟨otherDocument, otherMade⟩ := exists_junit_iff.mpr otherFits
  have read : readSuite? document = some (suiteRecord s hostname) := by
    obtain ⟨millis, -, rfl⟩ := junit_eq_ok_iff.mp made
    exact readSuite?_junitText s millis hostname
  have otherRead : readSuite? otherDocument = some (suiteRecord t other) := by
    obtain ⟨millis, -, rfl⟩ := junit_eq_ok_iff.mp otherMade
    exact readSuite?_junitText t millis other
  refine ⟨document, otherDocument, made, otherMade, read, otherRead, fun same => ?_, fun same => ?_⟩
  · rw [same, otherRead] at read
    exact (Option.some.inj read).symm
  · have sameDocument := junit_eq_of_record same
    rw [made, otherMade] at sameDocument
    exact Except.ok.inj sameDocument

section Samples

/-- A message that would end its element if it were written as it is. -/
def quotedStack : SuiteResult :=
  ⟨"Test&Stack", ⟨2024, 3, 1, 9, 5, 7, 0⟩, [⟨"TestPop", 1030, .error, some "\"/><failure message=\""⟩]⟩

/-- Texts that look like escaped ones. -/
def markedStack : SuiteResult :=
  ⟨"Test&amp;Stack", ⟨2024, 3, 1, 9, 5, 7, 0⟩, [⟨"TestPop", 1030, .error, some "&quot;/>"⟩]⟩

theorem junit_determines_record_quoted :
    quotedStack.totalMillis < UInt64.size ∧ markedStack.totalMillis < UInt64.size ∧
    ∃ document otherDocument, junit quotedStack "h" = .ok document ∧ junit markedStack "h" = .ok otherDocument ∧
      readSuite? document = some (suiteRecord quotedStack "h") ∧
      readSuite? otherDocument = some (suiteRecord markedStack "h") ∧
      (document = otherDocument ↔ suiteRecord quotedStack "h" = suiteRecord markedStack "h") := by
  have fits : quotedStack.totalMillis < UInt64.size := by decide
  have otherFits : markedStack.totalMillis < UInt64.size := by decide
  exact ⟨fits, otherFits, junit_determines_record fits otherFits⟩

end Samples

end SpecTest.Report
