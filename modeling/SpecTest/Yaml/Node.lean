import SpecTest.Yaml.Token

/-!
The nodes of a YAML document.

A node may carry an anchor, by which aliases refer to it.  Anchors are numbered by how many
different names there are so far, so two anchors can get one number; an alias then means the node
among them that starts last.
-/

namespace SpecTest.Yaml

inductive Node where
  | scalar (text : String) (style : ScalarStyle) (tag : Option String)
  | sequence (items : List Node) (tag : Option String)
  | mapping (entries : List (Node × Node)) (tag : Option String)
  /-- The node with the anchor of the number. -/
  | reference (anchor : Nat)
deriving Repr, Inhabited

namespace Node

def blank : Node := .scalar "" .plain none

mutual

def steps : Node → Nat
  | scalar .. => 1
  | sequence items _ => itemSteps items + 2
  | mapping entries _ => entrySteps entries + 2
  | reference _ => 1

def itemSteps : List Node → Nat
  | [] => 0
  | n :: rest => steps n + itemSteps rest

def entrySteps : List (Node × Node) → Nat
  | [] => 0
  | (k, v) :: rest => steps k + steps v + entrySteps rest

end

end Node

/-- A document: its node, unless the text holds none, and the nodes with anchors. -/
structure Document where
  root : Option Node
  anchors : List (Nat × Node) := []
deriving Inhabited

structure Anchored where
  number : Nat
  order : Nat
  node : Node

structure Reading where
  names : List (List Char × Nat) := []
  anchored : List Anchored := []
  met : Nat := 0

namespace Reading

def nameCount (r : Reading) : Nat := (r.names.map (·.1)).eraseDups.length

/-- Meets an anchor, and gives its number and order. -/
def meet (r : Reading) (name : List Char) : (Nat × Nat) × Reading :=
  let number := r.nameCount
  ((number, r.met), { r with names := (name, number) :: r.names, met := r.met + 1 })

def keep (r : Reading) (anchor : Option (Nat × Nat)) (n : Node) : Reading :=
  match anchor with
  | some (number, order) => { r with anchored := ⟨number, order, n⟩ :: r.anchored }
  | none => r

/-- The anchored node of a number that starts last, among those kept. -/
def latest (kept : List Anchored) (number : Nat) : Option Node :=
  let found := kept.filter (·.number == number)
  (found.foldl (fun best a =>
    match best with
    | none => some a
    | some b => if b.order < a.order then some a else some b) none).map (·.node)

end Reading

abbrev TagHandles := List (List Char × List Char)

def standardHandles : TagHandles :=
  [(['!'], ['!']), (['!', '!'], "tag:yaml.org,2002:".toList)]

def TagText.resolve? (t : TagText) (handles : TagHandles) : Option String :=
  if t.handle.isEmpty then some (String.ofList t.rest)
  else (handles.lookup t.handle).map fun meaning => String.ofList (meaning ++ t.rest)

def readProperties : List Token → Option (List Char) × Option TagText × List Token
  | .anchor a :: .tag t :: rest => (some a, some t, rest)
  | .anchor a :: rest => (some a, none, rest)
  | .tag t :: .anchor a :: rest => (some a, some t, rest)
  | .tag t :: rest => (none, some t, rest)
  | rest => (none, none, rest)

abbrev Reader (α : Type) := Reading → List Token → Option (α × Reading × List Token)

def readBlank : Reader Node := fun r ts => some (.blank, r, ts)

mutual

/-- A node.  `block` tells whether it may be a block collection, and `flat` whether it may be a
sequence whose entries are not further in than the key in front of it. -/
def readNode (handles : TagHandles) : Nat → Bool → Bool → Reader Node
  | 0, _, _ => fun _ _ => none
  | fuel + 1, block, flat => fun r ts =>
    match ts with
    | .reference name :: rest =>
      (r.names.lookup name).map fun number => (.reference number, r, rest)
    | ts => do
      let (name, tagText, rest) := readProperties ts
      let tag ← match tagText with
        | some t => some <$> t.resolve? handles
        | none => some none
      let (anchor, r) : Option (Nat × Nat) × Reading := match name with
        | some a => ((r.meet a).1, (r.meet a).2)
        | none => (none, r)
      let (n, r, rest) ←
        match rest with
        | .scalar text style :: rest =>
          pure (Node.scalar (String.ofList text) style tag, r, rest)
        | .flowSequenceStart :: rest => do
          let (items, r, rest) ← readFlowItems handles fuel true r rest
          pure (Node.sequence items tag, r, rest)
        | .flowMappingStart :: rest => do
          let (entries, r, rest) ← readFlowEntries handles fuel true r rest
          pure (Node.mapping entries tag, r, rest)
        | .blockEntry :: more =>
          if flat then do
            let (items, r, rest) ← readFlatItems handles fuel r (.blockEntry :: more)
            pure (Node.sequence items tag, r, rest)
          else if name.isSome || tag.isSome then
            pure (Node.scalar "" .plain tag, r, .blockEntry :: more)
          else none
        | rest =>
          match block, rest with
          | true, .blockSequenceStart :: rest => do
            let (items, r, rest) ← readBlockItems handles fuel r rest
            pure (Node.sequence items tag, r, rest)
          | true, .blockMappingStart :: rest => do
            let (entries, r, rest) ← readBlockEntries handles fuel r rest
            pure (Node.mapping entries tag, r, rest)
          | _, rest =>
            if name.isSome || tag.isSome then pure (Node.scalar "" .plain tag, r, rest) else none
      return (n, r.keep anchor n, rest)

def readBlockItems (handles : TagHandles) : Nat → Reader (List Node)
  | 0 => fun _ _ => none
  | fuel + 1 => fun r ts =>
    match ts with
    | .blockEnd :: rest => some ([], r, rest)
    | .blockEntry :: rest => do
      let (n, r, rest) ←
        match rest with
        | .blockEntry :: _ | .blockEnd :: _ => readBlank r rest
        | rest => readNode handles fuel true false r rest
      let (more, r, rest) ← readBlockItems handles fuel r rest
      return (n :: more, r, rest)
    | _ => none

/-- The items of a sequence that is not further in than the key in front of it. -/
def readFlatItems (handles : TagHandles) : Nat → Reader (List Node)
  | 0 => fun _ _ => none
  | fuel + 1 => fun r ts =>
    match ts with
    | .blockEntry :: rest => do
      let (n, r, rest) ←
        match rest with
        | .blockEntry :: _ | .key :: _ | .value :: _ | .blockEnd :: _ => readBlank r rest
        | rest => readNode handles fuel true false r rest
      let (more, r, rest) ← readFlatItems handles fuel r rest
      return (n :: more, r, rest)
    | rest => some ([], r, rest)

def readBlockEntries (handles : TagHandles) : Nat → Reader (List (Node × Node))
  | 0 => fun _ _ => none
  | fuel + 1 => fun r ts =>
    match ts with
    | .blockEnd :: rest => some ([], r, rest)
    | .key :: rest => do
      let (k, r, rest) ← readBlockPart handles fuel r rest
      let (v, r, rest) ←
        match rest with
        | .value :: rest => readBlockPart handles fuel r rest
        | rest => readBlank r rest
      let (more, r, rest) ← readBlockEntries handles fuel r rest
      return ((k, v) :: more, r, rest)
    | _ => none

def readBlockPart (handles : TagHandles) : Nat → Reader Node
  | 0 => fun _ _ => none
  | fuel + 1 => fun r ts =>
    match ts with
    | .key :: _ | .value :: _ | .blockEnd :: _ => readBlank r ts
    | ts => readNode handles fuel true true r ts

/-- The items of a flow sequence up to its bracket.  An item with a key is a mapping of one
entry. -/
def readFlowItems (handles : TagHandles) : Nat → Bool → Reader (List Node)
  | 0, _ => fun _ _ => none
  | fuel + 1, first => fun r ts =>
    match ts with
    | .flowSequenceEnd :: rest => some ([], r, rest)
    | ts => do
      let ts ←
        if first then some ts
        else
          match ts with
          | .flowEntry :: rest => some rest
          | _ => none
      match ts with
      | .flowSequenceEnd :: rest => return ([], r, rest)
      | .key :: rest => do
        let (k, r, rest) ←
          match rest with
          | .value :: rest | .flowEntry :: rest | .flowSequenceEnd :: rest => readBlank r rest
          | rest => readNode handles fuel false false r rest
        let (v, r, rest) ←
          match rest with
          | .value :: rest =>
            match rest with
            | .flowEntry :: _ | .flowSequenceEnd :: _ => readBlank r rest
            | rest => readNode handles fuel false false r rest
          | rest => readBlank r rest
        let (more, r, rest) ← readFlowItems handles fuel false r rest
        return (.mapping [(k, v)] none :: more, r, rest)
      | ts => do
        let (n, r, rest) ← readNode handles fuel false false r ts
        let (more, r, rest) ← readFlowItems handles fuel false r rest
        return (n :: more, r, rest)

/-- The entries of a flow mapping up to its brace.  A node without a colon is a key without
value. -/
def readFlowEntries (handles : TagHandles) : Nat → Bool → Reader (List (Node × Node))
  | 0, _ => fun _ _ => none
  | fuel + 1, first => fun r ts =>
    match ts with
    | .flowMappingEnd :: rest => some ([], r, rest)
    | ts => do
      let ts ←
        if first then some ts
        else
          match ts with
          | .flowEntry :: rest => some rest
          | _ => none
      match ts with
      | .flowMappingEnd :: rest => return ([], r, rest)
      | .key :: rest => do
        let (k, r, rest) ←
          match rest with
          | .value :: _ | .flowEntry :: _ | .flowMappingEnd :: _ => readBlank r rest
          | rest => readNode handles fuel false false r rest
        let (v, r, rest) ←
          match rest with
          | .value :: rest =>
            match rest with
            | .flowEntry :: _ | .flowMappingEnd :: _ => readBlank r rest
            | rest => readNode handles fuel false false r rest
          | rest => readBlank r rest
        let (more, r, rest) ← readFlowEntries handles fuel false r rest
        return ((k, v) :: more, r, rest)
      | ts => do
        let (k, r, rest) ← readNode handles fuel false false r ts
        let (more, r, rest) ← readFlowEntries handles fuel false r rest
        return ((k, .blank) :: more, r, rest)

end

/-- The directives in front of a document, and the tokens behind them.  `version` tells whether a
version was given. -/
def readDirectives (version : Bool) (handles : TagHandles) :
    List Token → Option (TagHandles × List Token)
  | .version major minor :: rest =>
    if version || major != 1 || (minor != 1 && minor != 2) then none
    else readDirectives true handles rest
  | .tagHandle handle meaning :: rest =>
    if (handles.lookup handle).isSome then none
    else readDirectives version ((handle, meaning) :: handles) rest
  | rest => some (handles, rest)

def Document.ofTokens? (ts : List Token) : Option Document := do
  if ts.isEmpty then return { root := none }
  let (handles, rest) ← readDirectives false [] ts
  let directives := rest.length < ts.length
  let handles := handles ++ standardHandles
  let fuel := 4 * ts.length + 4
  let (n, r, rest) ←
    match rest with
    | .documentStart :: rest =>
      match rest with
      | [] | .version .. :: _ | .tagHandle .. :: _ | .documentStart :: _ | .documentEnd :: _ =>
        readBlank {} rest
      | rest => readNode handles fuel true false {} rest
    | rest => if directives then none else readNode handles fuel true false {} rest
  let left := rest.dropWhile (· == .documentEnd)
  if !left.isEmpty then none
  let numbers := (r.anchored.map (·.number)).eraseDups
  return ⟨some n, numbers.filterMap fun k => (Reading.latest r.anchored k).map fun n => (k, n)⟩

def Document.parse? (text : String) : Option Document := do
  Document.ofTokens? (← tokens? text).toList

end SpecTest.Yaml
