import SpecTest.Proofs.Data.Keys
import SpecTest.Proofs.Run.Verdicts
import SpecTest.Proofs.Session.Setup

/-!
Codes that are in more than one set.

The sets of the categories are consulted one after the other, and the first one that has a code decides.  Which
of them comes first matters for the codes that two sets share, and for no other code, so that these are the
codes to warn about.
-/

namespace SpecTest.Data

section Searching

variable {α : Type} {p : α → Bool} {items reordered : List α} {a : α}

/-- Of items of which at most one fits, the same one is found in every order. -/
theorem find?_eq_of_perm (once : items.countP p ≤ 1) (perm : reordered.Perm items) :
    reordered.find? p = items.find? p := by
  have fitting : (reordered.filter p).Perm (items.filter p) := perm.filter p
  rw [List.countP_eq_length_filter] at once
  rw [← List.head?_filter, ← List.head?_filter]
  match found : items.filter p with
  | [] =>
      rw [found] at fitting
      rw [fitting.eq_nil]
  | [a] =>
      rw [found] at fitting
      rw [fitting.eq_singleton]
  | _ :: _ :: _ => simp [found] at once

/-- Any item that fits is the one that is found in some order. -/
theorem exists_perm_find?_eq (member : a ∈ items) (fits : p a = true) :
    ∃ reordered : List α, reordered.Perm items ∧ reordered.find? p = some a := by
  obtain ⟨front, back, rfl⟩ := List.append_of_mem member
  exact ⟨a :: (front ++ back), List.perm_middle.symm, List.find?_cons_of_pos fits⟩

theorem exists_ne_of_countP (distinct : items.Nodup) (twice : 2 ≤ items.countP p) :
    ∃ a ∈ items, ∃ b ∈ items, a ≠ b ∧ p a = true ∧ p b = true := by
  rw [List.countP_eq_length_filter] at twice
  match found : items.filter p with
  | [] => simp [found] at twice
  | [_] => simp [found] at twice
  | a :: b :: rest =>
      have apart : a ≠ b := by
        have kept := distinct.filter p
        rw [found] at kept
        exact List.rel_of_pairwise_cons kept List.mem_cons_self
      have fitting (c : α) (listed : c ∈ a :: b :: rest) : c ∈ items ∧ p c = true := by
        rwa [← List.mem_filter, found]
      obtain ⟨memberA, fitsA⟩ := fitting a (by simp)
      obtain ⟨memberB, fitsB⟩ := fitting b (by simp)
      exact ⟨a, memberA, b, memberB, apart, fitsA, fitsB⟩

end Searching

end SpecTest.Data

namespace SpecTest

open SpecTest.Data

variable {codes : ViolationCodes} {code : Int64} {order other : List ViolationCategory}

/-- The categories that have sets, in the order in which these are consulted. -/
def precedence : List ViolationCategory := [.precondition, .postcondition, .invariant]

namespace ViolationCodes

/-- Is the code in the set of the category? -/
def inSet (codes : ViolationCodes) (code : Int64) : ViolationCategory → Bool
  | .precondition => codes.precondition.contains code
  | .postcondition => codes.postcondition.contains code
  | .invariant => codes.invariant.contains code
  | .unrecognized => false

/-- The category of a code where the sets are consulted in this order. -/
def categoryIn (codes : ViolationCodes) (order : List ViolationCategory) (code : Int64) : ViolationCategory :=
  (order.find? (codes.inSet code)).getD .unrecognized

theorem categoryOf_eq (codes : ViolationCodes) (code : Int64) :
    codes.categoryOf code = codes.categoryIn precedence code := by
  simp only [categoryOf, categoryIn, precedence, List.find?_cons, List.find?_nil, inSet]
  cases codes.precondition.contains code
  · cases codes.postcondition.contains code
    · cases codes.invariant.contains code <;> rfl
    · rfl
  · rfl

theorem toInt_injective : Function.Injective Int64.toInt := fun _ _ => Int64.toInt_inj.mp

theorem mem_shared {s t : CodeSet} :
    code ∈ (shared s t).toList ↔ s.contains code = true ∧ t.contains code = true := by
  simp only [shared, Ascending.filter, List.mem_filter, CodeSet.contains, List.contains_iff_mem]

theorem overlapping_ascending (codes : ViolationCodes) : codes.overlapping.Pairwise (· < ·) := by
  simp only [Int64.lt_iff_toInt_lt]
  exact Ascending.ascending _

theorem mem_overlapping_iff : code ∈ codes.overlapping ↔ 2 ≤ precedence.countP (codes.inSet code) := by
  rw [overlapping, Ascending.mem_ofList toInt_injective, List.mem_append, List.mem_append, mem_shared, mem_shared,
    mem_shared]
  simp only [precedence, List.countP_cons, List.countP_nil, inSet]
  grind

theorem categoryIn_eq_of_not_mem (outside : code ∉ codes.overlapping) (perm : order.Perm precedence) :
    codes.categoryIn order code = codes.categoryOf code := by
  have once : precedence.countP (codes.inSet code) ≤ 1 := by
    rw [mem_overlapping_iff] at outside
    omega
  rw [categoryOf_eq, categoryIn, categoryIn, find?_eq_of_perm once perm]

/-- A code in two sets is put into the category of either of them by some order. -/
theorem exists_categoryIn_ne (inside : code ∈ codes.overlapping) :
    ∃ a b order other, a ∈ precedence ∧ a ≠ b ∧ order.Perm precedence ∧ other.Perm precedence ∧
      codes.categoryIn order code = a ∧ codes.categoryIn other code = b := by
  obtain ⟨a, memberA, b, memberB, apart, listedA, listedB⟩ :=
    exists_ne_of_countP (by decide) (mem_overlapping_iff.mp inside)
  obtain ⟨order, perm, first⟩ := exists_perm_find?_eq memberA listedA
  obtain ⟨other, otherPerm, otherFirst⟩ := exists_perm_find?_eq memberB listedB
  exact ⟨a, b, order, other, memberA, apart, perm, otherPerm, by rw [categoryIn, first, Option.getD_some],
    by rw [categoryIn, otherFirst, Option.getD_some]⟩

end ViolationCodes

section Verdicts

/-- The verdict on a violation of the category. -/
def Expectation.verdictOn (e : Expectation) (category : ViolationCategory) : Verdict :=
  if e.category? = some category then .pass else if category = .postcondition then .fail else .error

theorem Expectation.judge_violated (e : Expectation) (codes : ViolationCodes) (v : Violation) :
    (e.judge (.violated v) codes).1 = e.verdictOn (codes.categoryOf v.code) := by
  simp only [judge, verdictOn]
  split
  · rfl
  · split <;> rfl

theorem exists_expectation_of_mem : ∀ category ∈ precedence, ∃ e : Expectation, e.category? = some category := by
  simp only [precedence, List.forall_mem_cons]
  exact ⟨⟨.preconditionFailure, rfl⟩, ⟨.postconditionFailure, rfl⟩, ⟨.invariantFailure, rfl⟩, by simp⟩

/-- Is there a test for which it matters to the verdict on a violation with the code in which order the sets are
consulted? -/
def ViolationCodes.VerdictDepends (codes : ViolationCodes) (code : Int64) : Prop :=
  ∃ (e : Expectation) (order other : List ViolationCategory), order.Perm precedence ∧ other.Perm precedence ∧
    e.verdictOn (codes.categoryIn order code) ≠ e.verdictOn (codes.categoryIn other code)

theorem ViolationCodes.verdictDepends_iff : codes.VerdictDepends code ↔ code ∈ codes.overlapping := by
  constructor
  · rintro ⟨e, order, other, perm, otherPerm, differ⟩
    by_contra outside
    rw [categoryIn_eq_of_not_mem outside perm, categoryIn_eq_of_not_mem outside otherPerm] at differ
    exact differ rfl
  · intro inside
    obtain ⟨a, b, order, other, member, apart, perm, otherPerm, rfl, rfl⟩ := exists_categoryIn_ne inside
    obtain ⟨e, expects⟩ := exists_expectation_of_mem _ member
    refine ⟨e, order, other, perm, otherPerm, ?_⟩
    rw [Expectation.verdictOn, if_pos expects, Expectation.verdictOn, expects, if_neg (by simpa using apart)]
    split <;> decide

end Verdicts

section Warnings

variable {s : Settings} {warnings : List LogEvent}

/-- The warning about a code. -/
def overlapWarning (code : Int64) : LogEvent :=
  ⟨.warn, "violation code " ++ toString code.toInt ++ " appears in more than one category"⟩

theorem Settings.validate_eq_ok_iff : s.validate = .ok warnings ↔
    ((∃ selector, s.selector = .ok selector) ∧ s.checkLaunch = .ok ()) ∧
      warnings = s.violationCodes.overlapping.map overlapWarning := by
  constructor
  · intro valid
    obtain ⟨⟨selector, selected⟩, checked⟩ := validate_eq_ok valid
    rw [validate_eq selected, checked] at valid
    exact ⟨⟨⟨selector, selected⟩, checked⟩, (Except.ok.inj valid).symm⟩
  · rintro ⟨⟨⟨selector, selected⟩, checked⟩, rfl⟩
    rw [validate_eq selected, checked]
    rfl

end Warnings

/-- The codes that are found to overlap are those in two or three of the sets, in ascending order.  The category
of any other code is the same in all orders of the sets, and that of an overlapping one is not.  Valid
settings are warned about exactly the codes for which that order matters to the verdict on some test. -/
theorem ViolationCodes.overlapping_orderMatters (codes : ViolationCodes) :
    codes.overlapping.Pairwise (· < ·) ∧
    (∀ code, code ∈ codes.overlapping ↔ 2 ≤ precedence.countP (codes.inSet code)) ∧
    (∀ code, code ∉ codes.overlapping → ∀ order, order.Perm precedence →
      codes.categoryIn order code = codes.categoryOf code) ∧
    (∀ code, code ∈ codes.overlapping → ∃ order other, order.Perm precedence ∧ other.Perm precedence ∧
      codes.categoryIn order code ≠ codes.categoryIn other code) ∧
    (∀ (e : Expectation) (v : Violation),
      (e.judge (.violated v) codes).1 = e.verdictOn (codes.categoryIn precedence v.code)) ∧
    ∀ s : Settings, s.violationCodes = codes →
      ((∃ warnings, s.validate = .ok warnings) ↔
        (∃ selector, s.selector = .ok selector) ∧ s.checkLaunch = .ok ()) ∧
      ∀ warnings, s.validate = .ok warnings →
        ∃ warned : List Int64, warned.Pairwise (· < ·) ∧
          (∀ code, code ∈ warned ↔ codes.VerdictDepends code) ∧ warnings = warned.map overlapWarning := by
  refine ⟨overlapping_ascending codes, fun code => mem_overlapping_iff,
    fun code outside order perm => categoryIn_eq_of_not_mem outside perm, fun code inside => ?_, fun e v => ?_,
    fun s same => ⟨?_, fun warnings valid => ?_⟩⟩
  · obtain ⟨a, b, order, other, -, apart, perm, otherPerm, rfl, rfl⟩ := exists_categoryIn_ne inside
    exact ⟨order, other, perm, otherPerm, apart⟩
  · rw [Expectation.judge_violated, categoryOf_eq]
  · simp [Settings.validate_eq_ok_iff]
  · obtain ⟨-, rfl⟩ := Settings.validate_eq_ok_iff.mp valid
    rw [same]
    exact ⟨codes.overlapping, overlapping_ascending codes, fun code => verdictDepends_iff.symm, rfl⟩

section Samples

/-- Settings with a code that is a precondition and a postcondition. -/
def sharedSettings : Settings := { violationCodes := sharedCodes, launchGeneration := .none }

/-- The shared code depends on the order, and the settings are warned about it.  The others do not, whichever set
comes first. -/
theorem overlapping_orderMatters_shared :
    (4072 ∈ sharedCodes.overlapping ∧ ∃ order other, order.Perm precedence ∧ other.Perm precedence ∧
      sharedCodes.categoryIn order 4072 ≠ sharedCodes.categoryIn other 4072) ∧
    (4056 ∉ sharedCodes.overlapping ∧ [.invariant, .postcondition, .precondition].Perm precedence ∧
      sharedCodes.categoryIn [.invariant, .postcondition, .precondition] 4056 = sharedCodes.categoryOf 4056) ∧
    sharedSettings.validate = .ok [overlapWarning 4072] ∧
      ∃ warned : List Int64, warned.Pairwise (· < ·) ∧
        (∀ code, code ∈ warned ↔ sharedCodes.VerdictDepends code) ∧
        [overlapWarning 4072] = warned.map overlapWarning := by
  obtain ⟨-, -, outside, inside, -, warned⟩ := ViolationCodes.overlapping_orderMatters sharedCodes
  have shared : 4072 ∈ sharedCodes.overlapping := by decide
  have single : 4056 ∉ sharedCodes.overlapping := by decide
  have reordered : [.invariant, .postcondition, .precondition].Perm precedence := by decide
  have valid : sharedSettings.validate = .ok [overlapWarning 4072] := by decide +kernel
  exact ⟨⟨shared, inside _ shared⟩, ⟨single, reordered, outside _ single _ reordered⟩, valid,
    (warned sharedSettings rfl).2 _ valid⟩

end Samples

end SpecTest
