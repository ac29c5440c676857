import Mathlib.Algebra.Order.Field.Rat
import Mathlib.Data.Nat.Digits.Defs
import Mathlib.Tactic.Ring
import SpecTest.Proofs.Report.Readback

/-!
Whether the time of a suite is the sum of the times of its tests.

A time is written exactly, with three digits behind the point.  The time of a suite is added up in one word.
It is the sum of the others where that fits into the word, and where it does not there is no document.
-/

namespace SpecTest

open SpecTest.Data

namespace Report

open SpecTest.Markup SpecTest.Text

variable {s : SuiteResult} {hostname : String}

/-- The number that a text writes in digits, with a point among them or without one. -/
def decimal? (text : String) : Option ℚ :=
  match split '.' text with
  | [whole] => do
    let n ← natIn? 10 whole.toList
    return n
  | [whole, fraction] => do
    let n ← natIn? 10 whole.toList
    let part ← natIn? 10 fraction.toList
    return n + part / 10 ^ fraction.length
  | _ => none

def seconds? : Tag → Option ℚ
  | .opening _ attributes _ => (value? "time" attributes).bind decimal?
  | _ => none

/-- The seconds that a document tells of its suite. -/
def suiteSeconds? (document : String) : Option ℚ :=
  ((tagsOf document.toList).find? (·.begins "testsuite")).bind seconds?

/-- The seconds that a document tells of each of its tests. -/
def caseSeconds? (document : String) : Option (List ℚ) :=
  ((tagsOf document.toList).filter (·.begins "testcase")).mapM seconds?

/-- Is the time of the suite the sum of the times of its tests? -/
def TimesAddUp (document : String) : Prop :=
  ∃ parts, caseSeconds? document = some parts ∧ suiteSeconds? document = some parts.sum

section Reading

theorem length_padded {width n : Nat} (positive : 0 < width) (short : n < 10 ^ width) :
    (padded width n).length = width := by
  have digits : (Nat.toDigits 10 n).length ≤ width := Nat.toDigits_length 10 n width positive short
  have written : (toString n).length = (Nat.toDigits 10 n).length := by
    rw [Nat.toString_eq_repr, ← String.length_toList, Nat.toList_repr]
  rw [padded, String.length_append, String.length_ofList, List.length_replicate, written]
  omega

theorem decimal?_secondsText (millis : UInt64) :
    decimal? (secondsText millis) = some ((millis.toNat : ℚ) / 1000) := by
  have places : (padded 3 (millis.toNat % 1000)).length = 3 :=
    length_padded (by decide) (Nat.mod_lt _ (by decide))
  have whole : (millis.toNat : ℚ) = (millis.toNat / 1000 : Nat) * 1000 + (millis.toNat % 1000 : Nat) := by
    exact_mod_cast (Nat.div_add_mod' millis.toNat 1000).symm
  rw [decimal?, split_secondsText]
  dsimp only
  rw [natIn?_toString, natIn?_padded, places, whole]
  refine congrArg some ?_
  ring

theorem seconds?_of_time {name : String} {attributes : List (String × String)} {isEmpty : Bool}
    {millis : UInt64} (listed : attributes.lookup "time" = some (secondsText millis)) :
    seconds? (.opening name (escapeValues attributes) isEmpty) = some ((millis.toNat : ℚ) / 1000) := by
  rw [seconds?, value?_escapeValues, listed, Option.bind_some, decimal?_secondsText]

theorem suiteSeconds?_junitText (s : SuiteResult) (millis : UInt64) (hostname : String) :
    suiteSeconds? (junitText s millis hostname) = some ((millis.toNat : ℚ) / 1000) := by
  have found : (suiteTags s millis hostname).find? (·.begins "testsuite") =
      some (.opening "testsuite" (escapeValues (suiteAttributes s millis hostname)) s.results.isEmpty) := rfl
  rw [suiteSeconds?, tagsOf_junitText, found, Option.bind_some]
  exact seconds?_of_time rfl

/-- The elements of the tests in a document, which stand in its suite only. -/
theorem filter_suiteTags (s : SuiteResult) (millis : UInt64) (hostname : String) :
    (suiteTags s millis hostname).filter (·.begins "testcase") = s.results.map fun r =>
      .opening "testcase" (escapeValues (caseAttributes s.moduleName r)) (problemTag? r.verdict).isNone := by
  have each (r : TestResult) : (caseTags s.moduleName r).filter (·.begins "testcase") =
      [.opening "testcase" (escapeValues (caseAttributes s.moduleName r)) (problemTag? r.verdict).isNone] := by
    rw [caseTags]
    cases r.verdict <;> rfl
  have ending : (if s.results.isEmpty then [] else [Tag.closing "testsuite"]).filter (·.begins "testcase") =
      [] := by
    split <;> rfl
  have outer : (suiteTags s millis hostname).filter (·.begins "testcase") =
      (s.results.flatMap (caseTags s.moduleName) ++
        if s.results.isEmpty then [] else [Tag.closing "testsuite"]).filter (·.begins "testcase") := rfl
  rw [outer, List.filter_append, ending, List.append_nil, List.filter_flatMap, funext each]
  exact List.map_eq_flatMap.symm

theorem caseSeconds?_junitText (s : SuiteResult) (millis : UInt64) (hostname : String) :
    caseSeconds? (junitText s millis hostname) =
      some (s.results.map fun r => (r.millis.toNat : ℚ) / 1000) := by
  rw [caseSeconds?, tagsOf_junitText, filter_suiteTags]
  induction s.results with
  | nil => rfl
  | cons r rest ih =>
      have first : seconds? (.opening "testcase" (escapeValues (caseAttributes s.moduleName r))
          (problemTag? r.verdict).isNone) = some ((r.millis.toNat : ℚ) / 1000) :=
        seconds?_of_time rfl
      rw [List.map_cons, List.mapM_cons, first, ih]
      rfl

end Reading

theorem sum_seconds (s : SuiteResult) :
    (s.results.map fun r => (r.millis.toNat : ℚ) / 1000).sum = (s.totalMillis : ℚ) / 1000 := by
  rw [SuiteResult.totalMillis]
  induction s.results with
  | nil => simp
  | cons r rest ih =>
      rw [List.map_cons, List.sum_cons, ih, List.map_cons, sumOf_cons]
      push_cast
      ring

/-- The time of a suite is the exact sum of the times of its tests wherever there is one, which is where that sum
fits into a word.  Then there is a document, which tells the exact time of the suite and of each test, so that the
times add up.  Otherwise the suite has no document, and asking for it stops the program. -/
theorem junit_timesAddUp_iff (s : SuiteResult) (hostname : String) :
    (∀ millis, s.millis? = some millis ↔ millis.toNat = s.totalMillis) ∧
    ((∃ document, junit s hostname = .ok document ∧
        caseSeconds? document = some (s.results.map fun r => (r.millis.toNat : ℚ) / 1000) ∧
        suiteSeconds? document = some ((s.totalMillis : ℚ) / 1000) ∧ TimesAddUp document) ↔
      s.totalMillis < UInt64.size) ∧
    (junit s hostname = .error .timeOverflow ↔ UInt64.size ≤ s.totalMillis) := by
  refine ⟨fun _ => SuiteResult.millis?_eq_some_iff, ⟨fun has => ?_, fun fits => ?_⟩, ?_⟩
  · obtain ⟨document, made, -⟩ := has
    exact exists_junit_iff.mp ⟨document, made⟩
  · obtain ⟨document, made⟩ := exists_junit_iff.mpr fits
    obtain ⟨millis, took, rfl⟩ := junit_eq_ok_iff.mp made
    have suite := suiteSeconds?_junitText s millis hostname
    rw [SuiteResult.millis?_eq_some_iff.mp took] at suite
    have cases := caseSeconds?_junitText s millis hostname
    exact ⟨_, made, cases, suite, _, cases, by rw [suite, sum_seconds]⟩
  · rw [junit_eq_error_iff, and_iff_left rfl]

section Samples

/-- Two tests of which the first took as long as a word can tell. -/
def endlessStack : SuiteResult :=
  ⟨"TestStack", ⟨2024, 3, 1, 9, 5, 7, 0⟩,
    [⟨"TestPush", 18446744073709551615, .pass, none⟩, ⟨"TestPop", 1, .pass, none⟩]⟩

theorem junit_not_timesAddUp :
    ¬ ∀ s hostname, s.millis?.isSome ∧ ∃ document, junit s hostname = .ok document ∧ TimesAddUp document := by
  intro addUp
  obtain ⟨-, document, made, -⟩ := addUp endlessStack "h"
  have fits : endlessStack.totalMillis < UInt64.size := exists_junit_iff.mp ⟨document, made⟩
  exact absurd fits (by decide)

end Samples

end Report

end SpecTest
