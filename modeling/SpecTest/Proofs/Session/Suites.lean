import SpecTest.Runner
import SpecTest.Transcript

/-!
Which suites a session runs: those of different modules, because a transcript has no two modules of one
name.
-/

namespace SpecTest

namespace Transcript

variable {t : Transcript} {seen names : List String}

theorem firstRepeated?_eq_none_iff :
    firstRepeated? seen names = none ↔ names.Nodup ∧ ∀ name ∈ names, name ∉ seen := by
  induction names generalizing seen with
  | nil => simp [firstRepeated?]
  | cons name rest ih =>
      rw [firstRepeated?, List.nodup_cons, List.forall_mem_cons]
      by_cases repeated : name ∈ seen
      · simp [repeated]
      · rw [if_neg repeated, ih]
        simp only [List.mem_cons, not_or]
        constructor
        · intro both
          obtain ⟨distinct, fresh⟩ := both
          exact ⟨⟨fun again => (fresh name again).1 rfl, distinct⟩, repeated,
            fun other member => (fresh other member).2⟩
        · intro both
          obtain ⟨⟨once, distinct⟩, -, fresh⟩ := both
          refine ⟨distinct, fun other member => ⟨?_, fresh other member⟩⟩
          intro same
          subst same
          exact once member

theorem validate_eq_ok_iff : t.validate = .ok () ↔ (t.modules.map (·.name)).Nodup := by
  have noneSeen : firstRepeated? [] (t.modules.map (·.name)) = none ↔ _ := firstRepeated?_eq_none_iff
  rw [validate]
  cases found : firstRepeated? [] (t.modules.map (·.name)) with
  | none => simpa [found] using noneSeen
  | some name => simpa [found] using noneSeen

end Transcript

theorem Script.modules_names (s : Script) :
    s.modules.map (·.name) = s.transcript.modules.map (·.name) := by
  rw [modules, List.map_map]
  rfl

theorem Selector.discover_names (s : Selector) (modules : List ModuleInfo) :
    ((s.discover modules).map (·.moduleName)).Sublist (modules.map (·.name)) := by
  rw [discover, List.map_map]
  exact List.filter_sublist.map _

/-- The suites that are found in a transcript are those of different modules. -/
theorem Script.discover_distinct_of_valid {script : Script} (valid : script.transcript.validate = .ok ())
    (selector : Selector) : ((selector.discover script.modules).map (·.moduleName)).Nodup := by
  have names := Transcript.validate_eq_ok_iff.mp valid
  rw [← Script.modules_names] at names
  exact names.sublist (selector.discover_names _)

namespace Interpreter

variable {σ : Type} {i : Interpreter σ} {codes : ViolationCodes} {timestamp : Timestamp}

theorem runSuites_names (suites : List Suite) (run : Run σ) :
    (i.runSuites codes timestamp suites run).1.map (·.moduleName) = suites.map (·.moduleName) := by
  induction suites generalizing run with
  | nil => rfl
  | cons suite rest ih =>
      rw [List.map_cons, ← ih (i.runSuite codes timestamp suite run).2]
      rfl

theorem run_names {suites : List Suite} {state : σ} {results : List SuiteResult}
    (finished : (i.run codes timestamp suites state).1 = .ok results) :
    results.map (·.moduleName) = suites.map (·.moduleName) := by
  rw [run, Bench.run] at finished
  split at finished
  · cases finished
  · cases finished
    exact runSuites_names suites _

end Interpreter

end SpecTest
