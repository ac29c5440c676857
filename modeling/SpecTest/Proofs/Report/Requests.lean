import Mathlib.Data.List.Basic
import SpecTest.Proofs.Report.Failures

/-!
Requests for launch descriptors, and when they are refused.

The settings of a request are checked twice: with all other settings before a session, and again when the
descriptors are written, after their directory was made anew.  Both times it is the same check.
-/

namespace SpecTest

open SpecTest.Data SpecTest.Report SpecTest.Task

namespace Report

section Writing

/-- A request is refused in the same words by both checks. -/
theorem noLaunchDir_eq : noLaunchDir = Settings.noLaunchDir := rfl

theorem noLaunchProject_eq : noLaunchProject = Settings.noLaunchProject := rfl

variable {m : Type → Type} [Monad m]

theorem ofExcept_ok_bind [LawfulMonad m] {α β : Type} (a : α) (next : α → Task m β) :
    (Task.ofExcept (.ok a) >>= next) = next a := pure_bind a next

theorem ofExcept_error_bind [LawfulMonad m] {α β : Type} (e : Failure) (next : α → Task m β) :
    (Task.ofExcept (.error e) >>= next) = throw e := ExceptT.ext (pure_bind _ _)

variable [Host m]

/-- What is done with the directory of the descriptors before a request is checked. -/
def prepareLaunch : Option Path → Task m Unit
  | none => return ()
  | some dir => recreate dir

/-- What is done for a request that passed the check. -/
def writeSelected (s : Settings) (results : List SuiteResult) : Task m (List Path) := do
  if s.launchGeneration = .none then return []
  let dir := s.launchDir.getD ⟨""⟩
  let written ← writeFiles dir (launchFiles s.launchGeneration (s.launchProject.getD "") results)
  Task.log .debug ("wrote " ++ toString written.length ++ " launch file(s) to " ++ dir.text)
  return written

/-- Between the directory and the files stands the check of the settings. -/
theorem writeLaunch_eq [LawfulMonad m] (s : Settings) (results : List SuiteResult) :
    (writeLaunch s.launchDir s.launchGeneration s.launchProject results : Task m (List Path)) = (do
      prepareLaunch s.launchDir
      Task.ofExcept s.checkLaunch
      writeSelected s results) := by
  rw [writeLaunch.eq_def, Settings.checkLaunch, writeSelected]
  by_cases off : s.launchGeneration = .none
  · simp only [if_pos off, ofExcept_ok_bind]
    cases s.launchDir with
    | none => simp only [prepareLaunch, pure_bind]
    | some dir => rfl
  · simp only [if_neg off]
    cases s.launchDir with
    | none => simp [prepareLaunch, ofExcept_error_bind, noLaunchDir_eq]
    | some dir =>
        cases s.launchProject with
        | none => simp [prepareLaunch, ofExcept_error_bind, noLaunchProject_eq]
        | some project => simp [prepareLaunch, ofExcept_ok_bind]

end Writing

section Failing

variable {kind : Failure → Prop} (io : ∀ reason, kind (.io reason))
include io

theorem prepareLaunch_failsOnly (place : Option Path) :
    FailsOnly kind (prepareLaunch place : Task (StateM World) Unit) := by
  cases place with
  | none => exact .pure _
  | some dir => exact recreate_failsOnly io dir

theorem writeSelected_failsOnly (s : Settings) (results : List SuiteResult) :
    FailsOnly kind (writeSelected s results : Task (StateM World) (List Path)) := by
  rw [writeSelected]
  split
  · exact .pure _
  · exact (writeFiles_failsOnly io _).bind fun _ => (FailsOnly.log _ _).bind fun _ => .pure _

/-- Descriptors with a place and a project are not refused. -/
theorem writeLaunch_failsOnly {s : Settings} (checked : s.checkLaunch = .ok ())
    (results : List SuiteResult) :
    FailsOnly kind
      (writeLaunch s.launchDir s.launchGeneration s.launchProject results :
        Task (StateM World) (List Path)) := by
  rw [writeLaunch_eq, checked, ofExcept_ok_bind]
  exact (prepareLaunch_failsOnly io _).bind fun _ => writeSelected_failsOnly io s results

end Failing

section Refusing

variable {s : Settings} {reason : SettingsError} {results : List SuiteResult} {w w' : World}

theorem not_isIo_settings : ¬ (Failure.settings reason).IsIo := by
  rintro ⟨_, same⟩
  cases same

/-- A request is refused if the check fails, once its directory was made anew, and nothing comes after it. -/
theorem writeLaunch_on_refused_iff :
    (writeLaunch s.launchDir s.launchGeneration s.launchProject results).on w =
        (.error (.settings reason), w') ↔
      s.checkLaunch = .error (.settings reason) ∧ (prepareLaunch s.launchDir).on w = (.ok (), w') := by
  have io : ∀ reason, Failure.IsIo (.io reason) := fun reason => ⟨reason, rfl⟩
  rw [writeLaunch_eq, bind_on_eq_error_iff]
  constructor
  · rintro (unprepared | ⟨⟨⟩, v, prepared, refused⟩)
    · exact absurd (prepareLaunch_failsOnly io _ _ _ _ unprepared) not_isIo_settings
    · rcases bind_on_eq_error_iff.mp refused with checked | ⟨⟨⟩, _, -, unwritten⟩
      · obtain ⟨fails, rfl⟩ := Prod.mk.inj checked
        exact ⟨fails, prepared⟩
      · exact absurd (writeSelected_failsOnly io _ _ _ _ _ unwritten) not_isIo_settings
  · rintro ⟨fails, prepared⟩
    exact .inr ⟨(), w', prepared, by rw [fails, ofExcept_error_bind]; rfl⟩

/-- Whether the request is refused does not depend on the system, unless the directory cannot be made anew. -/
theorem writeLaunch_fst_refused_iff
    (made : ∀ dir, s.launchDir = some dir → ((recreate dir).on w).1 = .ok ()) :
    ((writeLaunch s.launchDir s.launchGeneration s.launchProject results).on w).1 =
        .error (.settings reason) ↔ s.checkLaunch = .error (.settings reason) := by
  obtain ⟨w', prepared⟩ : ∃ w', (prepareLaunch s.launchDir).on w = (.ok (), w') := by
    cases place : s.launchDir with
    | none => exact ⟨w, rfl⟩
    | some dir => exact ⟨_, on_of_fst (made dir place)⟩
  constructor
  · intro fails
    exact (writeLaunch_on_refused_iff.mp (on_of_fst_error fails)).1
  · intro checked
    rw [writeLaunch_on_refused_iff.mpr ⟨checked, prepared⟩]

end Refusing

end Report

section Checking

variable {s : Settings} {selector : Selector} {f : Failure} {w : World}

namespace Settings

/-- With a good pattern nothing but the request for descriptors can be wrong with settings. -/
theorem validate_eq (compiles : s.selector = .ok selector) :
    s.validate = s.checkLaunch.map fun _ => s.warnings := by
  rw [validate, compiles]
  cases s.checkLaunch <;> rfl

theorem checkLaunch_eq_error_iff : s.checkLaunch = .error f ↔ s.launchGeneration ≠ .none ∧
    (s.launchDir = none ∧ f = .settings noLaunchDir ∨
      (∃ dir, s.launchDir = some dir) ∧ s.launchProject = none ∧ f = .settings noLaunchProject) := by
  rw [checkLaunch]
  by_cases off : s.launchGeneration = .none
  · simp [off]
  · cases s.launchDir with
    | none => simp [off, eq_comm]
    | some dir => cases s.launchProject <;> simp [off, eq_comm]

theorem checkLaunch_settings (fails : s.checkLaunch = .error f) : ∃ reason, f = .settings reason := by
  obtain ⟨-, ⟨-, rfl⟩ | ⟨-, -, rfl⟩⟩ := checkLaunch_eq_error_iff.mp fails
  · exact ⟨_, rfl⟩
  · exact ⟨_, rfl⟩

/-- Settings with a good pattern are valid exactly if no request for descriptors is refused, whatever the
results are, and where they are not valid every request fails in the same way as the validation.  All that
the system has to do for that is to make the directory anew, if there is one. -/
theorem validate_agrees (compiles : s.selector = .ok selector)
    (made : ∀ dir, s.launchDir = some dir → ((recreate dir).on w).1 = .ok ()) :
    ((∃ warnings, s.validate = .ok warnings) ↔ ∀ results reason,
      ((writeLaunch s.launchDir s.launchGeneration s.launchProject results).on w).1 ≠
        .error (.settings reason)) ∧
    ∀ results f, s.validate = .error f ↔ (∃ reason, f = .settings reason) ∧
      ((writeLaunch s.launchDir s.launchGeneration s.launchProject results).on w).1 = .error f := by
  rw [validate_eq compiles, exists_map_eq_ok_iff]
  constructor
  · constructor
    · rintro ⟨⟨⟩, checked⟩ results reason fails
      cases checked.symm.trans ((writeLaunch_fst_refused_iff made).mp fails)
    · intro unrefused
      cases checked : s.checkLaunch with
      | ok _ => exact ⟨(), rfl⟩
      | error f =>
          obtain ⟨reason, rfl⟩ := checkLaunch_settings checked
          exact absurd ((writeLaunch_fst_refused_iff made).mpr checked) (unrefused [] reason)
  · intro results f
    rw [map_eq_error_iff]
    constructor
    · intro checked
      obtain ⟨reason, rfl⟩ := checkLaunch_settings checked
      exact ⟨⟨reason, rfl⟩, (writeLaunch_fst_refused_iff made).mpr checked⟩
    · rintro ⟨⟨reason, rfl⟩, fails⟩
      exact (writeLaunch_fst_refused_iff made).mp fails

section Samples

theorem validate_agrees_default :
    ∃ selector, ({} : Settings).selector = .ok selector ∧
      ((recreate ⟨"build/specrun/launch"⟩).on {}).1 = .ok () ∧
      ({} : Settings).validate = .error (.settings noLaunchProject) ∧
      ∀ results, ((writeLaunch (some ⟨"build/specrun/launch"⟩) .failing none results).on {}).1 =
        .error (.settings Report.noLaunchProject) := by
  have compiled : ({} : Settings).selector.isOk = true := by decide +kernel
  cases compiles : ({} : Settings).selector with
  | error f =>
      rw [compiles] at compiled
      cases compiled
  | ok selector =>
      have made : ((recreate ⟨"build/specrun/launch"⟩).on {}).1 = .ok () := by decide +kernel
      have invalid : ({} : Settings).validate = .error (.settings noLaunchProject) := by
        rw [validate_eq compiles]
        rfl
      obtain ⟨-, rejects⟩ := validate_agrees compiles (w := {}) fun dir place => by
        cases place
        exact made
      exact ⟨selector, rfl, made, invalid, fun results => ((rejects results _).mp invalid).2⟩

end Samples

end Settings

end Checking

end SpecTest
