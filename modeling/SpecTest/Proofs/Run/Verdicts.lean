import SpecTest.Runner

/-!
The law by which tests are judged.

A test passes exactly where it ends as its name asks.  Anything else that it ends in is a failure if it tells
against the specification, and an error of the test if it does not.  Of the codes, nothing counts but the
category of the one that was raised.
-/

namespace SpecTest

open SpecTest.Data

variable {ω : Type} {codes other : ViolationCodes} {e : Expectation} {o : Outcome} {v : Violation}
  {code : Int64}

/-- Is the outcome the expected one: a return, or a violation of the expected category? -/
def Expectation.MetBy (e : Expectation) (codes : ViolationCodes) : Outcome → Prop
  | .returned => e = .success
  | .violated v => e.category? = some (codes.categoryOf v.code)

/-- Does the outcome tell against the specification where it was not expected?  A violated postcondition
does, and so does a return where a violation had to come. -/
def Outcome.TellsAgainst (codes : ViolationCodes) : Outcome → Prop
  | .returned => True
  | .violated v => codes.categoryOf v.code = .postcondition

/-- What is said of an outcome that was not expected. -/
def Expectation.complaint (e : Expectation) : Outcome → String
  | .returned => "test passed, but expected " ++ e.description
  | .violated v => v.message

/-- Do the verdict and the message follow from the outcome and the name of the test? -/
structure TestResult.Follows (codes : ViolationCodes) (o : Outcome) (r : TestResult) : Prop where
  pass : r.verdict = .pass ↔ (Expectation.ofName r.testName).MetBy codes o
  fail : r.verdict = .fail ↔ ¬ (Expectation.ofName r.testName).MetBy codes o ∧ o.TellsAgainst codes
  error : r.verdict = .error ↔ ¬ (Expectation.ofName r.testName).MetBy codes o ∧ ¬ o.TellsAgainst codes
  silent : r.message = none ↔ r.verdict = .pass
  complains : ∀ text, r.message = some text → text = (Expectation.ofName r.testName).complaint o

section Codes

/-- Is the code in one of the sets? -/
def ViolationCodes.Lists (codes : ViolationCodes) (code : Int64) : Prop :=
  code ∈ codes.precondition.toList ∨ code ∈ codes.postcondition.toList ∨ code ∈ codes.invariant.toList

instance (codes : ViolationCodes) (code : Int64) : Decidable (codes.Lists code) :=
  inferInstanceAs (Decidable (_ ∨ _ ∨ _))

/-- Do the codes put what was raised, if anything was, into the same category? -/
def Outcome.SameCategory (codes other : ViolationCodes) : Outcome → Prop
  | .returned => True
  | .violated v => other.categoryOf v.code = codes.categoryOf v.code

theorem ViolationCodes.categoryOf_eq_unrecognized_iff :
    codes.categoryOf code = .unrecognized ↔ ¬ codes.Lists code := by
  simp only [categoryOf, Lists, CodeSet.contains, List.contains_iff_mem]
  split
  · simp [*]
  · split
    · simp [*]
    · split
      · simp [*]
      · simp [*]

end Codes

namespace Expectation

theorem judge_of_met (met : e.MetBy codes o) : e.judge o codes = (.pass, none) := by
  cases o with
  | returned => exact if_pos met
  | violated v => exact if_pos met

theorem judge_of_tellsAgainst (unmet : ¬ e.MetBy codes o) (against : o.TellsAgainst codes) :
    e.judge o codes = (.fail, some (e.complaint o)) := by
  cases o with
  | returned => exact if_neg unmet
  | violated v => exact (if_neg unmet).trans (if_pos against)

theorem judge_of_unmet (unmet : ¬ e.MetBy codes o) (notAgainst : ¬ o.TellsAgainst codes) :
    e.judge o codes = (.error, some (e.complaint o)) := by
  cases o with
  | returned => exact absurd trivial notAgainst
  | violated v => exact (if_neg unmet).trans (if_neg notAgainst)

theorem category?_ne_unrecognized (e : Expectation) : e.category? ≠ some .unrecognized := by
  cases e <;> decide

theorem judge_unrecognized (unknown : codes.categoryOf v.code = .unrecognized) :
    e.judge (.violated v) codes = (.error, some v.message) := by
  apply judge_of_unmet
  · intro met
    exact e.category?_ne_unrecognized (met.trans (congrArg some unknown))
  · intro against
    cases unknown.symm.trans against

theorem judge_congr (same : o.SameCategory codes other) : e.judge o other = e.judge o codes := by
  cases o with
  | returned => rfl
  | violated v =>
      have category : other.categoryOf v.code = codes.categoryOf v.code := same
      simp only [judge, category]

end Expectation

theorem TestResult.ofOutcome_follows (codes : ViolationCodes) (test : String) (o : Outcome)
    (millis : UInt64) : (TestResult.ofOutcome codes test o millis).Follows codes o := by
  by_cases met : (Expectation.ofName test).MetBy codes o
  · have judged := Expectation.judge_of_met met
    constructor <;> simp [ofOutcome, judged, met]
  · by_cases against : o.TellsAgainst codes
    · have judged := Expectation.judge_of_tellsAgainst met against
      constructor <;> simp [ofOutcome, judged, met, against]
    · have judged := Expectation.judge_of_unmet met against
      constructor <;> simp [ofOutcome, judged, met, against]

section Samples

/-- A bench on which every test raises the violation. -/
def raisingBench (v : Violation) : Bench Unit where
  reset _ := (.ok (), ())
  enter _ _ := ()
  invoke _ _ := ((.violated v, 0), ())
  suiteStarted _ _ := ()
  testFinished _ _ _ := ()

/-- Codes of which one is a precondition and a postcondition: it counts as the first. -/
def sharedCodes : ViolationCodes where
  precondition := Ascending.ofList [4055, 4072]
  postcondition := Ascending.ofList [4056, 4072]

end Samples

end SpecTest
