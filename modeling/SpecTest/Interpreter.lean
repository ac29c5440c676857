import SpecTest.Failure
import SpecTest.Suite
import SpecTest.Transcript

/-!
What runs tests: interpreters, and the one that follows a script.
-/

namespace SpecTest

structure Interpreter (σ : Type) where
  /-- Makes the interpreter ready for a run. -/
  reset : σ → Except Failure Unit × σ
  enter : String → σ → σ
  /-- Calls an operation: its outcome, and the milliseconds that it took. -/
  invoke : String → σ → (Outcome × UInt64) × σ

structure ScriptState where
  context : Option String := none
  calls : List (String × String) := []
deriving DecidableEq, Repr, Inhabited

namespace ScriptState

def invocations (s : ScriptState) : List String :=
  s.calls.reverse.map fun c => c.1 ++ "`" ++ c.2

/-- The module in whose context operations are called: without one, the module without a name. -/
def moduleName (s : ScriptState) : String := s.context.getD ""

end ScriptState

/-- The interpreter that follows the script, where the calls of a run take these milliseconds in their
order. -/
def Script.interpreter (script : Script) (took : Nat → UInt64) : Interpreter ScriptState where
  reset _ := (.ok (), {})
  enter moduleName s := { s with context := some moduleName }
  invoke operation s :=
    ((script.call s.moduleName operation, took s.calls.length),
      { s with calls := (s.moduleName, operation) :: s.calls })

end SpecTest
