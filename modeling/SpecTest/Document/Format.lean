/-!
What a reader of documents asks of their format.

Each kind of value is read by one description of it, whatever the format: the format says how a
text, a number, a list or a record is found in its values.
-/

namespace SpecTest.Document

structure Fields (ν : Type) where
  positional : Bool
  found : List (String × ν)

/-- How the values `ν` of a format answer.  A question that does not fit the value is refused. -/
structure Format (m : Type → Type) (ν : Type) where
  refuse : {α : Type} → m α
  text : ν → m String
  bool : ν → m Bool
  unsigned : Nat → ν → m Nat
  signed : Nat → ν → m Int
  optional : ν → m (Option ν)
  items : ν → m (List ν)
  /-- The fields of a record with the names; any other field is passed over, whatever it holds. -/
  fields : List String → ν → m (Fields ν)
  entries : ν → m (List (String × ν))
  choice : ν → m (String × Option ν)
  /-- A case as a name, or as a record of one field: its name with what it holds. -/
  singleton : ν → m (String × Option ν)
  unit : ν → m Unit
  content : ν → m Unit
  /-- A number without sign, read without knowing what it is. -/
  contentUnsigned : Nat → ν → m Nat

namespace Format

variable {m : Type → Type} {ν α : Type} [Monad m] (F : Format m ν)

def required (fs : Fields ν) (name : String) (read : ν → m α) : m α :=
  match fs.found.lookup name with
  | some v => read v
  | none => F.refuse

def option (read : ν → m α) (v : ν) : m (Option α) := do
  match ← F.optional v with
  | some inner => some <$> read inner
  | none => pure none

def list (read : ν → m α) (v : ν) : m (List α) := do (← F.items v).mapM read

/-- A field that may be missing where fields have names, and may say that nothing is there. -/
def optionField (fs : Fields ν) (name : String) (read : ν → m α) : m (Option α) :=
  match fs.found.lookup name with
  | some v => F.option read v
  | none => if fs.positional then F.refuse else pure none

def named (cases : List (String × α)) (v : ν) : m α := do
  let (name, body) ← F.choice v
  if let some b := body then F.unit b
  match cases.lookup name with
  | some a => pure a
  | none => F.refuse

end Format

namespace Fields

variable {m : Type → Type} {ν α : Type} [Monad m]

def given? (fs : Fields ν) (name : String) (read : ν → m α) : m (Option α) :=
  match fs.found.lookup name with
  | some v => some <$> read v
  | none => pure none

def withDefault (fs : Fields ν) (name : String) (default : α) (read : ν → m α) : m α :=
  return (← fs.given? name read).getD default

end Fields

def pickFields (names : List String) (entries : List (String × ν)) : Option (List (String × ν)) :=
  let found := entries.filter fun e => names.contains e.1
  if (found.map (·.1)).Nodup then some found else none

end SpecTest.Document
