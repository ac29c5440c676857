import SpecTest.Yaml.Scalar

/-!
The tokens of a YAML text.

Whether a node is the key of a mapping shows only at the colon behind it.  So the place in front of
each node that may be a key is kept, and the tokens that announce the key are put in there.
-/

namespace SpecTest.Yaml

open SpecTest.Text

structure TagText where
  handle : List Char
  rest : List Char
deriving DecidableEq, Repr

inductive Token where
  | version (major minor : Nat)
  | tagHandle (handle meaning : List Char)
  | documentStart
  | documentEnd
  | blockSequenceStart
  | blockMappingStart
  | blockEnd
  | flowSequenceStart
  | flowSequenceEnd
  | flowMappingStart
  | flowMappingEnd
  | blockEntry
  | flowEntry
  | key
  | value
  | reference (name : List Char)
  | anchor (name : List Char)
  | tag (t : TagText)
  | scalar (text : List Char) (style : ScalarStyle)
deriving DecidableEq, Repr

/-- A place where a key may start. -/
structure KeyPlace where
  tokens : Nat
  /-- Must a colon follow, because the place starts a line of a mapping? -/
  required : Bool
  index : Nat
  line : Nat
  col : Nat

structure Scan where
  tokens : Array Token := #[]
  columns : List Nat := []
  /-- For each open flow collection, and for the text around them, where a key may have started. -/
  keys : List (Option KeyPlace) := [none]
  keyAllowed : Bool := true

namespace Scan

def inFlow (s : Scan) : Bool := 1 < s.keys.length

def indent (s : Scan) : Nat :=
  match s.columns with
  | [] => 0
  | c :: _ => c + 1

def push (s : Scan) (t : Token) : Scan := { s with tokens := s.tokens.push t }

def allow (s : Scan) (allowed : Bool) : Scan := { s with keyAllowed := allowed }

/-- Opens a block collection at the column if it is further in than the innermost one.  Its token
goes in behind as many tokens as given. -/
def openBlock (s : Scan) (column tokens : Nat) (t : Token) : Scan :=
  if !s.inFlow && s.indent ≤ column then
    { s with columns := column :: s.columns, tokens := s.tokens.insertIdxIfInBounds tokens t }
  else s

def endedBlocks (column : Nat) : List Nat → List Nat × Nat
  | [] => ([], 0)
  | c :: rest =>
    if column < c then ((endedBlocks column rest).1, (endedBlocks column rest).2 + 1)
    else (c :: rest, 0)

def closeBlocks (s : Scan) (column : Nat) : Scan :=
  if s.inFlow then s
  else
    let (columns, ended) := endedBlocks column s.columns
    { s with columns, tokens := s.tokens ++ Array.replicate ended .blockEnd }

def closeAllBlocks (s : Scan) : Scan :=
  if s.inFlow then s
  else { s with columns := [], tokens := s.tokens ++ Array.replicate s.columns.length .blockEnd }

/-- Gives up the place where a key may have started, which must not be a required one. -/
def dropKey? (s : Scan) : Option Scan :=
  match s.keys with
  | some k :: rest => if k.required then none else some { s with keys := none :: rest }
  | _ => some s

def keepKey? (s : Scan) (c : Cursor) : Option Scan :=
  if s.keyAllowed then do
    let required := !s.inFlow && s.columns.head? == some c.col
    let s ← s.dropKey?
    return { s with keys := some ⟨s.tokens.size, required, c.index, c.line, c.col⟩ :: s.keys.tail }
  else some s

/-- Gives up the places that are too far away: a key stands on one line, with its colon within 1024
characters. -/
def dropFarKeys? (s : Scan) (c : Cursor) : Option Scan := do
  let keys ← s.keys.mapM fun
    | some k =>
      if k.line < c.line ∨ k.index + 1024 < c.index then
        if k.required then none else some none
      else some (some k)
    | none => some none
  return { s with keys }

end Scan

/-- Passes over blanks, comments and line ends in front of a token, and tells whether a key may
start there. -/
def skipToToken (flow : Bool) : Nat → Bool → Cursor → Bool × Cursor
  | 0, allowed, c => (allowed, c)
  | fuel + 1, allowed, c =>
    let c := if c.col = 0 && c.sees '\ufeff' then c.skip 1 else c
    let c := c.skipWhile fun ch => ch == ' ' || (ch == '\t' && (flow || !allowed))
    let c := c.skipComment
    if c.atBreak then skipToToken flow fuel (allowed || !flow) c.skipBreak else (allowed, c)

def readVersionNumber (c : Cursor) : Option (Nat × Cursor) := do
  let digits := c.rest.takeWhile isDecimal
  if 9 < digits.length then none
  return (← natIn? 10 digits, c.skip digits.length)

def readTagHandle (c : Cursor) : Option (List Char × Cursor) :=
  if !c.sees '!' then none
  else
    let word := (c.rest.drop 1).takeWhile isWordChar
    let after := c.skip (word.length + 1)
    if after.sees '!' then some ('!' :: word ++ ['!'], after.skip 1) else some ('!' :: word, after)

def isTagChar (verbatim : Bool) (ch : Char) : Bool :=
  isWordChar ch || ";/?:@&=+$.!~*'()".toList.contains ch ||
    (verbatim && (ch == ',' || ch == '[' || ch == ']'))

def readByte : List Char → Option (UInt8 × List Char)
  | '%' :: a :: b :: rest => (natIn? 16 [a, b]).map fun n => (n.toUInt8, rest)
  | _ => none

def byteCount? (first : UInt8) : Option Nat :=
  if first < 0x80 then some 1
  else if first &&& 0xE0 = 0xC0 then some 2
  else if first &&& 0xF0 = 0xE0 then some 3
  else if first &&& 0xF8 = 0xF0 then some 4
  else none

def readBytes : Nat → List Char → Option (List UInt8 × List Char)
  | 0, cs => some ([], cs)
  | n + 1, cs => do
    let (b, rest) ← readByte cs
    let (bs, rest) ← readBytes n rest
    return (b :: bs, rest)

def readByteChar (cs : List Char) : Option (Char × Nat) := do
  let (first, _) ← readByte cs
  let count ← byteCount? first
  let (bytes, _) ← readBytes count cs
  let text ← String.fromUTF8? (ByteArray.mk bytes.toArray)
  return (← text.toList.head?, 3 * count)

def readTagChars (verbatim : Bool) : Nat → Cursor → Option (List Char × Cursor)
  | 0, _ => none
  | fuel + 1, c =>
    match c.rest with
    | [] => some ([], c)
    | ch :: _ =>
      if ch = '%' then do
        let (decoded, n) ← readByteChar c.rest
        let (more, after) ← readTagChars verbatim fuel (c.skip n)
        return (decoded :: more, after)
      else if isTagChar verbatim ch then
        (readTagChars verbatim fuel (c.skip 1)).map fun (more, after) => (ch :: more, after)
      else some ([], c)

def readTag (flow : Bool) (c : Cursor) : Option (TagText × Cursor) := do
  let fuel := c.rest.length + 1
  let (tag, after) ←
    if c.rest[1]? = some '<' then do
      let (text, after) ← readTagChars true fuel (c.skip 2)
      if text.isEmpty || !after.sees '>' then none
      pure (⟨[], text⟩, after.skip 1)
    else do
      let (handle, after) ← readTagHandle c
      if 1 < handle.length ∧ handle.getLast? = some '!' then do
        let (text, after) ← readTagChars false fuel after
        if text.isEmpty then none
        pure (⟨handle, text⟩, after)
      else do
        let (more, after) ← readTagChars false fuel after
        let text := handle.drop 1 ++ more
        pure (if text.isEmpty then ⟨[], ['!']⟩ else ⟨['!'], text⟩, after)
  if after.atWordEnd || (flow && after.sees ',') then return (tag, after) else none

def readAnchorName (c : Cursor) : Option (List Char × Cursor) :=
  let name := c.rest.takeWhile isWordChar
  let after := c.skip name.length
  let ended := after.atWordEnd ||
    (after.head?.map fun ch => "?:,]\x7d%@`".toList.contains ch).getD false
  if name.isEmpty || !ended then none else some (name, after)

def readDirective (c : Cursor) : Option (Token × Cursor) := do
  let c := c.skip 1
  let name := c.rest.takeWhile isWordChar
  let after := c.skip name.length
  if !after.atWordEnd then none
  let (token, after) ←
    match String.ofList name with
    | "YAML" => do
      let (major, after) ← readVersionNumber after.skipBlanks
      if !after.sees '.' then none
      let (minor, after) ← readVersionNumber (after.skip 1)
      pure (Token.version major minor, after)
    | "TAG" => do
      let (handle, after) ← readTagHandle after.skipBlanks
      if handle.length ≠ 1 ∧ handle.getLast? ≠ some '!' then none
      if !after.atBlank then none
      let after := after.skipBlanks
      let (meaning, after) ← readTagChars true (after.rest.length + 1) after
      if meaning.isEmpty || !after.atWordEnd then none
      pure (Token.tagHandle handle meaning, after)
    | _ => none
  let after := after.skipBlanks.skipComment
  if after.atLineEnd then return (token, after.skipBreak) else none

namespace Scan

def breakToken? (s : Scan) (c : Cursor) (t : Token) (length : Nat) : Option (Scan × Cursor) := do
  let s ← s.closeAllBlocks.dropKey?
  return ((s.allow false).push t, c.skip length)

def openFlow? (s : Scan) (c : Cursor) (t : Token) : Option (Scan × Cursor) := do
  let s ← s.keepKey? c
  return (({ s with keys := none :: s.keys }.allow true).push t, c.skip 1)

def closeFlow? (s : Scan) (c : Cursor) (t : Token) : Option (Scan × Cursor) := do
  let s ← s.dropKey?
  let s := if s.inFlow then { s with keys := s.keys.tail } else s
  return ((s.allow false).push t, c.skip 1)

def entry? (s : Scan) (c : Cursor) (opening t : Token) : Option (Scan × Cursor) := do
  if !s.inFlow && !s.keyAllowed then none
  let s ← (s.openBlock c.col s.tokens.size opening).dropKey?
  return (s.push t, c.skip 1)

def value? (s : Scan) (c : Cursor) : Option (Scan × Cursor) :=
  match s.keys with
  | some k :: rest =>
    let s := { s with tokens := s.tokens.insertIdxIfInBounds k.tokens .key, keys := none :: rest }
    let s := s.openBlock k.col k.tokens .blockMappingStart
    some ((s.allow false).push .value, c.skip 1)
  | _ =>
    if !s.inFlow && !s.keyAllowed then none
    else
      let s := s.openBlock c.col s.tokens.size .blockMappingStart
      some ((s.allow !s.inFlow).push .value, c.skip 1)

/-- A node or a part of one, which may be a key. -/
def node? (s : Scan) (c : Cursor) (read : Cursor → Option (Token × Cursor)) :
    Option (Scan × Cursor) := do
  let s ← s.keepKey? c
  let (t, after) ← read c
  return ((s.allow false).push t, after)

def startsPlain (flow : Bool) (ch : Char) (rest : List Char) : Bool :=
  if ch = '-' then !(rest.head?.map isBlank).getD false
  else if ch = '?' ∨ ch = ':' then !flow && !endsWord rest
  else !(isBlank ch || isBreak ch || "-?:,[]\x7b\x7d#&*!|>'\"%@`".toList.contains ch)

def step? (s : Scan) (c : Cursor) : Option (Scan × Cursor) :=
  match c.rest with
  | [] => some (s, c)
  | ch :: rest =>
    let block := endsWord rest
    if c.col = 0 ∧ ch = '%' then do
      let s ← s.closeAllBlocks.dropKey?
      let (t, after) ← readDirective c
      return ((s.allow false).push t, after)
    else if c.atMarker '-' then s.breakToken? c .documentStart 3
    else if c.atMarker '.' then s.breakToken? c .documentEnd 3
    else if ch = '[' then s.openFlow? c .flowSequenceStart
    else if ch = '\x7b' then s.openFlow? c .flowMappingStart
    else if ch = ']' then s.closeFlow? c .flowSequenceEnd
    else if ch = '\x7d' then s.closeFlow? c .flowMappingEnd
    else if ch = ',' then do
      let s ← s.dropKey?
      return ((s.allow true).push .flowEntry, c.skip 1)
    else if ch = '-' && block then do
      let (s, c) ← s.entry? c .blockSequenceStart .blockEntry
      return (s.allow true, c)
    else if ch = '?' && (s.inFlow || block) then do
      let (s, c) ← s.entry? c .blockMappingStart .key
      return (s.allow !s.inFlow, c)
    else if ch = ':' && (s.inFlow || block) then s.value? c
    else if ch = '*' then s.node? c fun c =>
      (readAnchorName (c.skip 1)).map fun (n, after) => (.reference n, after)
    else if ch = '&' then s.node? c fun c =>
      (readAnchorName (c.skip 1)).map fun (n, after) => (.anchor n, after)
    else if ch = '!' then s.node? c fun c =>
      (readTag s.inFlow c).map fun (t, after) => (.tag t, after)
    else if (ch = '|' ∨ ch = '>') ∧ !s.inFlow then do
      let s ← s.dropKey?
      let (text, after) ← readBlock (ch == '|') s.indent c
      return ((s.allow true).push (.scalar text (if ch = '|' then .literal else .folded)), after)
    else if ch = '\'' then s.node? c fun c =>
      (readQuoted true c).map fun (text, after) => (.scalar text .quoted, after)
    else if ch = '"' then s.node? c fun c =>
      (readQuoted false c).map fun (text, after) => (.scalar text .quoted, after)
    else if startsPlain s.inFlow ch rest then do
      let s ← s.keepKey? c
      let (text, newLine, after) ← readPlain s.inFlow s.indent c
      return ((s.allow newLine).push (.scalar text .plain), after)
    else none

def finish? (s : Scan) : Nat → Cursor → Option (Array Token)
  | 0, _ => none
  | fuel + 1, c => do
    let (allowed, c) := skipToToken s.inFlow (c.rest.length + 1) s.keyAllowed c
    let s ← (s.allow allowed).dropFarKeys? c
    let s := s.closeBlocks c.col
    if c.atEnd then
      let s ← s.closeAllBlocks.dropKey?
      return s.tokens
    else
      let (s, c) ← s.step? c
      s.finish? fuel c

end Scan

def tokens? (text : String) : Option (Array Token) :=
  let cs := text.toList
  if cs.all isAllowed then Scan.finish? {} (cs.length + 1) { rest := cs } else none

end SpecTest.Yaml
