import SpecTest.Yaml.Cursor

/-!
Scalars of a YAML text: plain ones, quoted ones, and blocks of lines.

Every reader starts at a place and gives the text of the scalar with the place behind it, or nothing
where the scalar is not well-formed.
-/

namespace SpecTest.Yaml

open SpecTest.Text

inductive ScalarStyle where
  | plain
  | quoted
  | literal
  | folded
deriving DecidableEq, Repr, Inhabited

def isFlowMark (c : Char) : Bool := c == ',' || c == '[' || c == ']' || c == '\x7b' || c == '\x7d'

def readPlainWord (flow : Bool) : List Char → Option (List Char)
  | [] => some []
  | ch :: rest =>
    if isBlank ch || isBreak ch then some []
    else if flow && ch == ':' && (rest.head?.map fun n => isFlowMark n || n == '?').getD false then
      none
    else if (ch == ':' && endsWord rest) || (flow && isFlowMark ch) then some []
    else (readPlainWord flow rest).map (ch :: ·)

/-- Goes on reading a plain scalar behind the text so far, with the gap since then.  Tells in the
end whether the scalar ends in a new line. -/
def readPlainFrom (flow : Bool) (indent : Nat) :
    Nat → List Char → Gap → Cursor → Option (List Char × Bool × Cursor)
  | 0, _, _, _ => none
  | fuel + 1, text, gap, c => do
    if c.atDocumentMarker || c.sees '#' then return (text, gap.breaks, c)
    let word ← readPlainWord flow c.rest
    let after := c.skip word.length
    let (text, gap) := if word.isEmpty then (text, gap) else (text ++ gap.text ++ word, {})
    if !(after.atBlank || after.atBreak) then return (text, gap.breaks, after)
    let (gap, next) ← readGap indent (after.rest.length + 1) gap after
    if !flow && next.col < indent then return (text, gap.breaks, next)
    readPlainFrom flow indent fuel text gap next

/-- A plain scalar, with whether it ends in a new line.  Its lines are indented by `indent`. -/
def readPlain (flow : Bool) (indent : Nat) (c : Cursor) : Option (List Char × Bool × Cursor) :=
  readPlainFrom flow indent (c.rest.length + 1) [] {} c

def escapedChar? : Char → Option Char
  | '0' => some '\x00'
  | 'a' => some '\x07'
  | 'b' => some '\x08'
  | 't' => some '\t'
  | '\t' => some '\t'
  | 'n' => some '\n'
  | 'v' => some '\x0b'
  | 'f' => some '\x0c'
  | 'r' => some '\r'
  | 'e' => some '\x1b'
  | ' ' => some ' '
  | '"' => some '"'
  | '/' => some '/'
  | '\\' => some '\\'
  | 'N' => some '\u0085'
  | '_' => some '\u00a0'
  | 'L' => some '\u2028'
  | 'P' => some '\u2029'
  | _ => none

def codeLength? : Char → Option Nat
  | 'x' => some 2
  | 'u' => some 4
  | 'U' => some 8
  | _ => none

def readEscape : List Char → Option (Char × Nat)
  | [] => none
  | ch :: rest =>
    match codeLength? ch with
    | some n => do
      if rest.length < n then none
      let c ← charOfCode? (← natIn? 16 (rest.take n))
      return (c, n + 1)
    | none => (escapedChar? ch).map fun c => (c, 1)

/-- A run of a quoted scalar without blanks: its text, whether it ended in an escaped line end, and
the place behind it. -/
def readQuotedRun (single : Bool) : Nat → Cursor → Option (List Char × Bool × Cursor)
  | 0, _ => none
  | fuel + 1, c =>
    let goOn (ch : Char) (n : Nat) : Option (List Char × Bool × Cursor) :=
      (readQuotedRun single fuel (c.skip n)).map fun (text, joined, after) =>
        (ch :: text, joined, after)
    match c.rest with
    | [] => some ([], false, c)
    | ch :: rest =>
      if isBlank ch || isBreak ch then some ([], false, c)
      else if single then
        if ch ≠ '\'' then goOn ch 1
        else if rest.head? = some '\'' then goOn '\'' 2
        else some ([], false, c)
      else if ch = '"' then some ([], false, c)
      else if ch ≠ '\\' then goOn ch 1
      else if (rest.head?.map isBreak).getD false then some ([], true, (c.skip 1).skipBreak)
      else do
        let (escaped, n) ← readEscape rest
        goOn escaped (n + 1)

def readQuotedFrom (single : Bool) : Nat → List Char → Cursor → Option (List Char × Cursor)
  | 0, _, _ => none
  | fuel + 1, text, c => do
    if c.atDocumentMarker || c.atEnd then none
    let (run, joined, after) ← readQuotedRun single (c.rest.length + 1) c
    if after.sees (if single then '\'' else '"') then return (text ++ run, after.skip 1)
    let gap : Gap := if joined then { first := some [] } else {}
    let (gap, next) ← readGap 0 (after.rest.length + 1) gap after
    readQuotedFrom single fuel (text ++ run ++ gap.text) next

def readQuoted (single : Bool) (c : Cursor) : Option (List Char × Cursor) :=
  let c := c.skip 1
  readQuotedFrom single (c.rest.length + 1) [] c

inductive Chomping where
  | strip
  | clip
  | keep
deriving DecidableEq

def chomping? : Option Char → Option Chomping
  | some '+' => some .keep
  | some '-' => some .strip
  | _ => none

def readBlockHead (c : Cursor) : Option (Chomping × Nat × Cursor) := do
  let width (c : Cursor) : Option (Nat × Cursor) :=
    match c.head? with
    | some ch =>
      if isDecimal ch then if ch = '0' then none else some (ch.toNat - '0'.toNat, c.skip 1)
      else some (0, c)
    | none => some (0, c)
  match chomping? c.head? with
  | some chomp =>
    let (n, c) ← width (c.skip 1)
    return (chomp, n, c)
  | none =>
    let (n, after) ← width c
    match chomping? after.head? with
    | some chomp => if n = 0 then return (.clip, 0, after) else return (chomp, n, after.skip 1)
    | none => return (.clip, n, after)

/-- Reads the indentation of lines and empty lines.  With `indent` zero the indentation is not known
yet; the greatest column so far is `deepest`.  Gives the line ends and that column. -/
def readBlockBreaks (indent : Nat) :
    Nat → Nat → List Char → Cursor → Option (List Char × Nat × Cursor)
  | 0, _, _, _ => none
  | fuel + 1, deepest, breaks, c =>
    let spaces := (c.rest.takeWhile (· == ' ')).length
    let c := c.skip (if indent = 0 then spaces else min spaces (indent - c.col))
    let deepest := max deepest c.col
    if (indent = 0 ∨ c.col < indent) ∧ c.sees '\t' then none
    else if c.atBreak then
      let (b, after) := c.takeBreak
      readBlockBreaks indent fuel deepest (breaks ++ b) after
    else some (breaks, deepest, c)

structure BlockText where
  text : List Char := []
  lastBreak : List Char := []
  breaks : List Char := []
  indented : Bool := false

/-- Adds a line to a block, with the line ends in front of it. -/
def BlockText.addLine (b : BlockText) (literal : Bool) (line lineBreak : List Char) : BlockText :=
  let indented := (line.head?.map isBlank).getD false
  let joint :=
    if !literal && b.lastBreak == ['\n'] && !b.indented && !indented then
      if b.breaks.isEmpty then [' '] else b.breaks
    else b.lastBreak ++ b.breaks
  ⟨b.text ++ joint ++ line, lineBreak, [], indented⟩

def readBlockLines (literal : Bool) (indent : Nat) :
    Nat → BlockText → Cursor → Option (BlockText × Cursor)
  | 0, _, _ => none
  | fuel + 1, b, c => do
    if c.col ≠ indent || c.atEnd then return (b, c)
    let line := c.rest.takeWhile fun ch => !isBreak ch
    let (lineBreak, after) := (c.skip line.length).takeBreak
    let b := b.addLine literal line lineBreak
    let (breaks, _, next) ← readBlockBreaks indent (after.rest.length + 1) 0 [] after
    readBlockLines literal indent fuel { b with breaks } next

/-- A block from its mark on, inside lines that are indented by less than `outer` columns. -/
def readBlock (literal : Bool) (outer : Nat) (c : Cursor) : Option (List Char × Cursor) := do
  let (chomp, width, c) ← readBlockHead (c.skip 1)
  let c := c.skipBlanks.skipComment
  if !c.atLineEnd then none
  let c := c.skipBreak
  let fuel := c.rest.length + 1
  let given := if width = 0 then 0 else outer - 1 + width
  let (breaks, deepest, c) ← readBlockBreaks given fuel 0 [] c
  let indent := if given = 0 then max 1 (max deepest outer) else given
  let (b, c) ← readBlockLines literal indent fuel { breaks } c
  let tail :=
    match chomp with
    | .strip => []
    | .clip => b.lastBreak
    | .keep => b.lastBreak ++ b.breaks
  return (b.text ++ tail, c)

end SpecTest.Yaml
