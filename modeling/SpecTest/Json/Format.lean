import SpecTest.Document.Format
import SpecTest.Json.Value

/-!
JSON values as documents.

A record is an object, or an array of its fields in order.  Values may be nested in one another up
to a limit, except where nobody reads them.
-/

namespace SpecTest.Json

open SpecTest.Document

/-- A value with the number of arrays and objects that may still be nested in its place. -/
structure Nested where
  room : Nat
  value : Value
deriving Inhabited

def depthLimit : Nat := 127

namespace Nested

def inner (n : Nested) (v : Value) : Nested := ⟨n.room - 1, v⟩

def namedFields? (n : Nested) (fields : List (Option String × Value)) :
    Option (List (String × Nested)) :=
  if n.room = 0 then none
  else fields.mapM fun f => f.1.map fun name => (name, n.inner f.2)

def text? (n : Nested) : Option String :=
  match n.value with
  | .string t => t
  | _ => none

def bool? (n : Nested) : Option Bool :=
  match n.value with
  | .bool b => some b
  | _ => none

def unsigned? (bits : Nat) (n : Nested) : Option Nat :=
  match n.value with
  | .whole false size => if size < 1 <<< bits then some size else none
  | _ => none

/-- A whole number in the range of as many bits with a sign.  Zero has none. -/
def signed? (bits : Nat) (n : Nested) : Option Int :=
  match n.value with
  | .whole false size => if size < 1 <<< (bits - 1) then some size else none
  | .whole true size => if 0 < size ∧ size ≤ 1 <<< (bits - 1) then some (-size) else none
  | _ => none

def optional (n : Nested) : Option (Option Nested) :=
  match n.value with
  | .null => some none
  | _ => some (some n)

def items? (n : Nested) : Option (List Nested) :=
  match n.value with
  | .array vs => if n.room = 0 then none else some (vs.map n.inner)
  | _ => none

def entries? (n : Nested) : Option (List (String × Nested)) :=
  match n.value with
  | .object fields => n.namedFields? fields
  | _ => none

/-- The fields of a record: those of an object, each at most once, or the items of an array under
the names in order. -/
def fields? (names : List String) (n : Nested) : Option (Fields Nested) :=
  match n.value with
  | .array _ => do
    let items ← n.items?
    if names.length < items.length then none else return ⟨true, names.zip items⟩
  | _ => do
    let found ← pickFields names (← n.entries?)
    return ⟨false, found⟩

/-- A case: a string for its name alone, or an object with its one field for what it holds. -/
def choice? (n : Nested) : Option (String × Option Nested) :=
  match n.value with
  | .string t => t.map fun name => (name, none)
  | _ => do
    match ← n.entries? with
    | [(name, v)] => return (name, some v)
    | _ => none

def unit? (n : Nested) : Option Unit :=
  match n.value with
  | .null => some ()
  | _ => none

end Nested

mutual

/-- Can the value be read without knowing what it is, with the room for nesting? -/
def isReadable : Nat → Value → Bool
  | _, .null => true
  | _, .bool _ => true
  | _, .whole _ size => Value.isFiniteReal size 0
  | _, .real _ mantissa exponent => Value.isFiniteReal mantissa exponent
  | _, .string t => t.isSome
  | 0, .array _ => false
  | room + 1, .array items => areReadable room items
  | 0, .object _ => false
  | room + 1, .object fields => fieldsAreReadable room fields

def areReadable : Nat → List Value → Bool
  | _, [] => true
  | room, v :: rest => isReadable room v && areReadable room rest

def fieldsAreReadable : Nat → List (Option String × Value) → Bool
  | _, [] => true
  | room, (name, v) :: rest => name.isSome && isReadable room v && fieldsAreReadable room rest

end

def format : Format Option Nested where
  refuse := none
  text := Nested.text?
  bool := Nested.bool?
  unsigned := Nested.unsigned?
  signed := Nested.signed?
  optional := Nested.optional
  items := Nested.items?
  fields := Nested.fields?
  entries := Nested.entries?
  choice := Nested.choice?
  singleton := Nested.choice?
  unit := Nested.unit?
  content n := if isReadable n.room n.value then some () else none
  contentUnsigned := Nested.unsigned?

end SpecTest.Json
