import Mathlib.Data.List.DropRight
import SpecTest.Proofs.Session.Entries

/-!
Which module answers a call, after any calls of the interpreter of a script.

It is the one that was entered last since the last reset.  Where none was entered, it is not that nothing is in
scope: calls are then answered by the module whose name is empty, and a transcript may well have one.
-/

namespace SpecTest

/-- What can be done with an interpreter. -/
inductive InterpreterCall where
  | reset
  | enter (moduleName : String)
  | invoke (operation : String)
deriving DecidableEq, Repr

namespace InterpreterCall

def entered? : InterpreterCall → Option String
  | reset => none
  | enter moduleName => some moduleName
  | invoke _ => none

end InterpreterCall

section Calls

/-- The calls after the last reset; without a reset, all of them. -/
def sinceReset (calls : List InterpreterCall) : List InterpreterCall :=
  calls.rtakeWhile (· ≠ .reset)

/-- The module entered last since the last reset. -/
def lastEntered? (calls : List InterpreterCall) : Option String :=
  ((sinceReset calls).filterMap (·.entered?)).getLast?

/-- Was no module entered since the last reset? -/
def Unentered (calls : List InterpreterCall) : Prop :=
  ∀ call ∈ sinceReset calls, call.entered? = none

instance (calls : List InterpreterCall) : Decidable (Unentered calls) :=
  inferInstanceAs (Decidable (∀ call ∈ sinceReset calls, call.entered? = none))

variable {calls : List InterpreterCall} {call : InterpreterCall}

theorem lastEntered?_eq_none_iff : lastEntered? calls = none ↔ Unentered calls := by
  rw [lastEntered?, List.getLast?_eq_none_iff, List.filterMap_eq_nil_iff, Unentered]

theorem lastEntered?_concat_reset : lastEntered? (calls ++ [.reset]) = none := by
  simp [lastEntered?, sinceReset]

theorem lastEntered?_concat (other : call ≠ .reset) :
    lastEntered? (calls ++ [call]) = call.entered?.or (lastEntered? calls) := by
  have since : sinceReset (calls ++ [call]) = sinceReset calls ++ [call] :=
    List.rtakeWhile_concat_pos _ _ _ (by simpa using other)
  rw [lastEntered?, since, List.filterMap_append, List.getLast?_append]
  cases entered : call.entered? <;> simp [entered, lastEntered?]

end Calls

namespace Interpreter

variable {σ : Type} (i : Interpreter σ)

def perform (s : σ) : InterpreterCall → σ
  | .reset => (i.reset s).2
  | .enter moduleName => i.enter moduleName s
  | .invoke operation => (i.invoke operation s).2

def performAll (s : σ) (calls : List InterpreterCall) : σ := calls.foldl i.perform s

theorem performAll_concat (s : σ) (calls : List InterpreterCall) (call : InterpreterCall) :
    i.performAll s (calls ++ [call]) = i.perform (i.performAll s calls) call :=
  List.foldl_concat ..

end Interpreter

namespace Script

variable {script : Script} {took : Nat → UInt64} {operation moduleName : String}

theorem perform_context (script : Script) (took : Nat → UInt64) (s : ScriptState) (call : InterpreterCall)
    (other : call ≠ .reset) :
    ((script.interpreter took).perform s call).context = call.entered?.or s.context := by
  cases call with
  | reset => exact absurd rfl other
  | enter moduleName => rfl
  | invoke operation => rfl

theorem performAll_context (script : Script) (took : Nat → UInt64) (calls : List InterpreterCall) :
    ((script.interpreter took).performAll {} calls).context = lastEntered? calls := by
  -- What was done last decides, so the calls are taken from their end.
  induction calls using List.reverseRecOn with
  | nil => rfl
  | append_singleton calls call ih =>
      rw [Interpreter.performAll_concat]
      by_cases reset : call = .reset
      · subst reset
        rw [lastEntered?_concat_reset]
        rfl
      · rw [perform_context script took _ call reset, ih, lastEntered?_concat reset]

/-- How a call of the operation ends, after the calls from the start on. -/
def outcomeAfter (script : Script) (took : Nat → UInt64) (calls : List InterpreterCall) (operation : String) :
    Outcome :=
  ((script.interpreter took).invoke operation ((script.interpreter took).performAll {} calls)).1.1

theorem outcomeAfter_eq (script : Script) (took : Nat → UInt64) (calls : List InterpreterCall)
    (operation : String) :
    script.outcomeAfter took calls operation = script.call ((lastEntered? calls).getD "") operation := by
  rw [← performAll_context script took]
  rfl

/-- The answer to a name that is not in scope. -/
def unknownName (operation : String) : Outcome :=
  .violated ⟨notInScope, "Name '" ++ operation ++ "' is not in scope"⟩

theorem call_of_not_answering
    (silent : ∀ m ∈ script.transcript.modules, m.name = moduleName → m.answering? operation = none) :
    script.call moduleName operation = unknownName operation := by
  rw [call]
  cases found : script.transcript.modules.find? (·.name == moduleName) with
  | none => rfl
  | some m =>
      have named : m.name = moduleName := by simpa using List.find?_some found
      have unlisted := silent m (List.mem_of_find?_eq_some found) named
      rw [ScriptedModule.answering?] at unlisted
      rw [Option.bind_some, unlisted]
      rfl

end Script

/-- Does the outcome say that a name is not in scope? -/
def Outcome.IsNotInScope (o : Outcome) : Prop :=
  ∃ message, o = .violated ⟨Script.notInScope, message⟩

/-- Where no module was entered since the last reset, a name is not in scope unless the module with the empty
name lists it: then its entry answers, whatever that tells. -/
theorem Script.outcomeAfter_unentered {script : Script} (valid : script.transcript.validate = .ok ())
    {calls : List InterpreterCall} (unentered : Unentered calls) (took : Nat → UInt64) (operation : String) :
    ((script.outcomeAfter took calls operation).IsNotInScope ↔
      ∀ m ∈ script.transcript.modules, m.name = "" → ∀ answer, m.answering? operation = some answer →
        answer.outcome.IsNotInScope) ∧
    ((∀ m ∈ script.transcript.modules, m.name = "" → m.answering? operation = none) →
      script.outcomeAfter took calls operation = unknownName operation) := by
  have asked : script.outcomeAfter took calls operation = script.call "" operation := by
    rw [outcomeAfter_eq, lastEntered?_eq_none_iff.mpr unentered, Option.getD_none]
  rw [asked]
  refine ⟨⟨fun notThere m member unnamed answer answers => ?_, fun notThere => ?_⟩, call_of_not_answering⟩
  · rwa [← call_of_answering valid member answers, unnamed]
  · by_cases silent : ∀ m ∈ script.transcript.modules, m.name = "" → m.answering? operation = none
    · exact ⟨_, call_of_not_answering silent⟩
    · push Not at silent
      obtain ⟨m, member, unnamed, answered⟩ := silent
      obtain ⟨answer, answers⟩ := Option.ne_none_iff_exists'.mp answered
      rw [← unnamed, call_of_answering valid member answers]
      exact notThere m member unnamed answer answers

section Samples

/-- A script in which one module has the empty name. -/
def namelessScript : Script where
  transcript.modules := [⟨"", [], [⟨"TestPush", 0, .returned⟩]⟩,
    ⟨"TestStack", [], [⟨"TestPop", 0, .returned⟩]⟩]
  baseDir := ⟨""⟩

/-- The module that was entered before the reset lists the name, but is not asked. -/
theorem outcomeAfter_unentered_unlisted :
    namelessScript.transcript.validate = .ok () ∧
      Unentered [.enter "TestStack", .reset, .invoke "TestPush"] ∧
      namelessScript.outcomeAfter UInt64.ofNat [.enter "TestStack", .reset, .invoke "TestPush"] "TestPop" =
        Script.unknownName "TestPop" := by
  have valid : namelessScript.transcript.validate = .ok () := by decide
  have unentered : Unentered [.enter "TestStack", .reset, .invoke "TestPush"] := by decide
  obtain ⟨-, unlisted⟩ := Script.outcomeAfter_unentered valid unentered UInt64.ofNat "TestPop"
  exact ⟨valid, unentered, unlisted (by decide)⟩

/-- An operation of the module with the empty name is in scope after a reset. -/
theorem outcomeAfter_not_isNotInScope :
    ¬ ∀ (script : Script) (took : Nat → UInt64), script.transcript.validate = .ok () →
      ∀ calls, Unentered calls → ∀ operation, (script.outcomeAfter took calls operation).IsNotInScope := by
  intro always
  obtain ⟨message, raised⟩ := always namelessScript (fun _ => 0) (by decide) [.reset] (by decide) "TestPush"
  cases raised

end Samples

end SpecTest
