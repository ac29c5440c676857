import SpecTest.Proofs.Data.Sums
import SpecTest.Report.Launch

/-!
Counting the results of a run: by verdict, by suite and over all suites.
-/

namespace SpecTest

open SpecTest.Data

namespace SuiteResult

variable {s : SuiteResult}

theorem testCount_eq_count (s : SuiteResult) :
    s.testCount = s.count .pass + s.count .fail + s.count .error := by
  have splits (results : List TestResult) : results.length =
      (results.filter (·.verdict == .pass)).length + (results.filter (·.verdict == .fail)).length +
        (results.filter (·.verdict == .error)).length := by
    induction results with
    | nil => rfl
    | cons r results ih =>
        rw [List.length_cons, ih]
        cases verdict : r.verdict with
        | pass =>
            simp [verdict]
            omega
        | fail =>
            simp [verdict]
            omega
        | error =>
            simp [verdict]
            omega
  exact splits s.results

theorem length_unsuccessful (s : SuiteResult) :
    s.unsuccessful.length = s.count .fail + s.count .error := by
  have passed : s.results.countP (·.verdict.isPass) = s.count .pass := List.countP_eq_length_filter
  have others : s.results.countP (fun r => ¬ r.verdict.isPass) = s.unsuccessful.length := by
    rw [List.countP_eq_length_filter, unsuccessful]
    simp
  have parts := List.length_eq_countP_add_countP (l := s.results) (·.verdict.isPass)
  have all := s.testCount_eq_count
  rw [testCount] at all
  omega

theorem succeeded_iff_pass : s.succeeded = true ↔ ∀ r ∈ s.results, r.verdict = .pass := by
  simp only [succeeded, List.all_eq_true, Verdict.isPass, beq_iff_eq]

theorem succeeded_iff_count : s.succeeded = true ↔ s.count .fail = 0 ∧ s.count .error = 0 := by
  have none : s.unsuccessful = [] ↔ s.succeeded = true := by
    simp [unsuccessful, succeeded]
  rw [← none, ← List.length_eq_zero_iff, length_unsuccessful, Nat.add_eq_zero_iff]

end SuiteResult

namespace RunSummary

variable {results : List SuiteResult}

theorem ofResults_eq (results : List SuiteResult) : ofResults results =
    ⟨sumOf (results.map (·.testCount)), sumOf (results.map (·.count .fail)),
      sumOf (results.map (·.count .error))⟩ := by
  have adds (before : RunSummary) : results.foldl (fun acc s => ⟨acc.tests + s.testCount,
      acc.failures + s.count .fail, acc.errors + s.count .error⟩) before =
      ⟨before.tests + sumOf (results.map (·.testCount)),
        before.failures + sumOf (results.map (·.count .fail)),
        before.errors + sumOf (results.map (·.count .error))⟩ := by
    induction results generalizing before with
    | nil => rfl
    | cons s results ih => simp only [List.foldl_cons, ih, List.map_cons, sumOf_cons, Nat.add_assoc]
  rw [ofResults, adds]
  simp

theorem ofResults_succeeded_iff :
    (ofResults results).succeeded = true ↔ ∀ s ∈ results, s.succeeded = true := by
  have both : (ofResults results).succeeded = true ↔
      (∀ s ∈ results, s.count .fail = 0) ∧ ∀ s ∈ results, s.count .error = 0 := by
    rw [ofResults_eq, succeeded, Bool.and_eq_true, beq_iff_eq, beq_iff_eq, sumOf_map_eq_zero_iff,
      sumOf_map_eq_zero_iff]
  simp only [both, SuiteResult.succeeded_iff_count, ← forall_and]

end RunSummary

theorem LaunchGeneration.length_selected_failing (results : List SuiteResult) :
    (failing.selected results).length =
      (RunSummary.ofResults results).failures + (RunSummary.ofResults results).errors := by
  have each (s : SuiteResult) : ((s.results.filter fun r => failing.selects r.verdict.isPass).map
      fun r => (s.moduleName, r.testName)).length = s.count .fail + s.count .error := by
    rw [List.length_map, ← s.length_unsuccessful]
    rfl
  rw [selected, length_flatMap_eq_sumOf, List.map_congr_left fun s _ => each s, sumOf_map_add,
    RunSummary.ofResults_eq]

end SpecTest
