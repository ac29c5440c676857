import SpecTest.Document.Format
import SpecTest.Yaml.Node
import SpecTest.Yaml.Plain

/-!
YAML nodes as documents.

A record is a mapping; a scalar that is not written at all stands for an empty record or list.
Values may be nested in one another up to a limit, except where nobody reads them, and aliases may
be followed only so often.
-/

namespace SpecTest.Yaml

open SpecTest.Document

/-- A node with the number of collections that may still be nested in its place. -/
structure Nested where
  room : Nat
  node : Node
deriving Inhabited

def depthLimit : Nat := 128

/-- The nodes with anchors, and how often aliases may still be followed. -/
structure Aliases where
  anchors : List (Nat × Node)
  left : Nat

abbrev Read := StateT Aliases Option

def Read.ofOption (a : Option α) : Read α := fun s => a.map fun a => (a, s)

def followAnchor (anchor : Nat) : Read Node := fun s =>
  match s.left with
  | 0 => none
  | left + 1 => (s.anchors.lookup anchor).map fun n => (n, { s with left })

def Nested.follow : Nat → Nested → Read Nested
  | 0, _ => failure
  | fuel + 1, n =>
    match n.node with
    | .reference anchor => do
      let target ← followAnchor anchor
      Nested.follow fuel ⟨n.room, target⟩
    | _ => pure n

def Nested.direct (n : Nested) : Read Nested := do
  n.follow ((← get).left + 1)

def isBlankScalar : Node → Bool
  | .scalar "" .plain _ => true
  | _ => false

def coreTag (name : String) : String := "tag:yaml.org,2002:" ++ name

def isOwnTag (tag : Option String) : Bool :=
  (tag.map fun t => t.toList.head? == some '!').getD false

def ownTagName (tag : String) : String :=
  if tag == "!" then tag else String.ofList (tag.toList.drop 1)

/-- The text of a scalar that may stand for a value of the kind: a plain one, or a literal block
with the tag of the kind. -/
def scalarOf (kind : String) : Node → Option String
  | .scalar text .plain _ => some text
  | .scalar text .literal (some tag) => if tag == coreTag kind then some text else none
  | _ => none

namespace Nested

def inner (n : Nested) (node : Node) : Nested := ⟨n.room - 1, node⟩

def text (n : Nested) : Read String := do
  match (← n.direct).node with
  | .scalar text _ _ => pure text
  | _ => failure

/-- A truth value, which only a plain scalar or one with its tag can stand for. -/
def bool (n : Nested) : Read Bool := do
  .ofOption ((scalarOf "bool" (← n.direct).node).bind boolText?)

def unsigned (bits : Nat) (n : Nested) : Read Nat := do
  let v ← .ofOption ((scalarOf "int" (← n.direct).node).bind natText?)
  if v < 1 <<< bits then pure v else failure

def signed (bits : Nat) (n : Nested) : Read Int := do
  let v ← .ofOption ((scalarOf "int" (← n.direct).node).bind intText?)
  let bound : Nat := 1 <<< (bits - 1)
  if -(bound : Int) ≤ v ∧ v < bound then pure v else failure

/-- Nothing where a plain scalar is empty or a word for null; the node itself otherwise. -/
def optional (n : Nested) : Read (Option Nested) := do
  let n ← n.direct
  match n.node with
  | .scalar text .plain none => pure (if text == "" || isNullText text then none else some n)
  | .scalar text .plain (some tag) =>
    if tag ≠ coreTag "null" then pure (some n)
    else if isNullText text then pure none
    else failure
  | _ => pure (some n)

def items (n : Nested) : Read (List Nested) := do
  let n ← n.direct
  match n.node with
  | .sequence items _ => if n.room = 0 then failure else pure (items.map n.inner)
  | node => if isBlankScalar node then pure [] else failure

def entries (n : Nested) : Read (List (String × Nested)) := do
  let n ← n.direct
  match n.node with
  | .mapping entries _ =>
    if n.room = 0 then failure
    else entries.mapM fun e => return (← (n.inner e.1).text, n.inner e.2)
  | node => if isBlankScalar node then pure [] else failure

def fields (names : List String) (n : Nested) : Read (Fields Nested) := do
  let found ← .ofOption (pickFields names (← n.entries))
  pure ⟨false, found⟩

def choice (n : Nested) : Read (String × Option Nested) := do
  let n ← n.direct
  match n.node with
  | .scalar text style tag =>
    match tag with
    | some t =>
      if isOwnTag tag then pure (ownTagName t, some ⟨n.room, .scalar text style none⟩)
      else pure (text, none)
    | none => pure (text, none)
  | .sequence _ (some t) | .mapping _ (some t) =>
    if isOwnTag (some t) then pure (ownTagName t, some n) else failure
  | _ => failure

def unit (n : Nested) : Read Unit := do
  match (← n.direct).node with
  | .scalar text .plain _ => if text == "" || isNullText text then pure () else failure
  | _ => failure

end Nested

def untyped? (text : String) (style : ScalarStyle) (tag : Option String) : Option Plain :=
  match tag with
  | none => some (if style = .plain then Plain.ofText text else .text)
  | some t =>
    if isOwnTag tag then none
    else if t == coreTag "bool" then (boolText? text).map .bool
    else if t == coreTag "int" then (intText? text).bind Plain.ofInt?
    else if t == coreTag "float" then if isFloatText text then some .float else none
    else if t == coreTag "null" then if isNullText text then some .nothing else none
    else some .text

namespace Nested

/-- A case as a name, which must not read as anything but a text, or as a mapping of one entry. -/
def singleton (n : Nested) : Read (String × Option Nested) := do
  let n ← n.direct
  match n.node with
  | .scalar text style tag =>
    if untyped? text style tag = some .text then pure (text, none) else failure
  | .mapping [(key, value)] tag =>
    if isOwnTag tag ∨ n.room = 0 then failure
    else pure (← (n.inner key).text, some (n.inner value))
  | _ => failure

def content : Nat → Nested → Read Unit
  | 0, _ => failure
  | fuel + 1, n => do
    let n ← n.direct
    match n.node with
    | .scalar text style tag =>
      match untyped? text style tag with
      | none => failure
      | some .wide => failure
      | some _ => pure ()
    | .sequence items tag =>
      if isOwnTag tag ∨ n.room = 0 then failure
      else items.forM fun i => content fuel (n.inner i)
    | .mapping entries tag =>
      if isOwnTag tag ∨ n.room = 0 then failure
      else entries.forM fun e => do
        content fuel (n.inner e.1)
        content fuel (n.inner e.2)
    | .reference _ => failure

/-- A whole number below two to the power of the bits, where the scalar has to stand for one by
itself. -/
def contentUnsigned (bits : Nat) (n : Nested) : Read Nat := do
  match (← n.direct).node with
  | .scalar text style tag =>
    match untyped? text style tag with
    | some (.int v) => if 0 ≤ v ∧ v.toNat < 1 <<< bits then pure v.toNat else failure
    | _ => failure
  | _ => failure

end Nested

def format : Format Read Nested where
  refuse := failure
  text := Nested.text
  bool := Nested.bool
  unsigned := Nested.unsigned
  signed := Nested.signed
  optional := Nested.optional
  items := Nested.items
  fields := Nested.fields
  entries := Nested.entries
  choice := Nested.choice
  singleton := Nested.singleton
  unit := Nested.unit
  content n := Nested.content (n.room + 2) n
  contentUnsigned := Nested.contentUnsigned

/-- Runs a reader on a document.  A text without any node stands for one that is not written. -/
def Document.read? (d : Document) (read : Nested → Read α) : Option α :=
  let root := d.root.getD .blank
  let aliases : Aliases := ⟨d.anchors, 100 * (d.root.map Node.steps).getD 1⟩
  (read ⟨depthLimit, root⟩ aliases).map (·.1)

end SpecTest.Yaml
