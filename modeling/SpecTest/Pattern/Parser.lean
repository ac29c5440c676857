import SpecTest.Pattern.Reader

/-!
Patterns from their text.

The text is read from left to right with the groups that are open around the place.  What can go
wrong is that the text is not well-formed, or that the automaton for it would take too much memory.
-/

namespace SpecTest.Pattern

open SpecTest.Text SpecTest.Unicode

structure Piece where
  pattern : Pattern
  depth : Nat := 0
  /-- May it be repeated?  A setting of flags may not. -/
  repeatable : Bool := true

def Piece.row (pieces : List Piece) : Piece :=
  match pieces with
  | [p] => p
  | ps =>
    let depth := if ps.isEmpty then 0 else (ps.map (·.depth)).foldl max 0 + 1
    ⟨seqAll (ps.map (·.pattern)), depth, !ps.isEmpty⟩

def Piece.choice (branches : List Piece) : Piece :=
  match branches with
  | [b] => b
  | bs => ⟨altAll (bs.map (·.pattern)), (bs.map (·.depth)).foldl max 0 + 1, true⟩

structure Level where
  /-- The pieces of the branch that is read, the last one first. -/
  pieces : List Piece := []
  branches : List Piece := []

namespace Level

def endBranch (l : Level) : Level := ⟨[], Piece.row l.pieces.reverse :: l.branches⟩

def close (l : Level) : Piece := Piece.choice l.endBranch.branches.reverse

def push (l : Level) (p : Piece) : Level := { l with pieces := p :: l.pieces }

def repeat? (l : Level) (least : Nat) (most : Option Nat) : Option Level :=
  match l.pieces with
  | [] => none
  | p :: ps =>
    if p.repeatable then
      some { l with pieces := ⟨.times p.pattern least most, p.depth + 1, true⟩ :: ps }
    else none

end Level

/-- The place in a pattern's text: the level that is read, the flags in force, the levels around it
with the flags at the start of the inner one, and the names of groups so far. -/
structure Place where
  level : Level := {}
  flags : Flags := {}
  outer : List (Level × Flags) := []
  names : List (List Char) := []

def Flags.set? (f : Flags) (letter : Char) (on : Bool) : Option Flags :=
  match letter with
  | 'i' => some { f with caseless := on }
  | 'm' => some { f with multiLine := on }
  | 's' => some { f with dotAll := on }
  | 'u' => some { f with unicode := on }
  | 'R' => some { f with anyLine := on }
  | 'x' => some { f with spaced := on }
  | 'U' => some f
  | _ => none

/-- Reads letters of flags up to a colon or a closing parenthesis, and gives the flags, whether any
letter was read, and the text from that character on.  `seen` holds what stands before. -/
def readFlags (f : Flags) (on : Bool) (seen : List Char) :
    List Char → Option (Flags × Bool × List Char)
  | [] => none
  | c :: rest =>
    if c = ':' ∨ c = ')' then
      if seen.head? = some '-' then none else some (f, !seen.isEmpty, c :: rest)
    else if c ∈ seen then none
    else if c = '-' then readFlags f false (c :: seen) rest
    else do
      let f ← f.set? c on
      readFlags f on (c :: seen) rest

def isNameChar (first : Bool) (c : Char) : Bool :=
  if first then c == '_' || alphabetic.contains c
  else c == '_' || c == '.' || c == '[' || c == ']' || alphanumeric.contains c

def readName (cs : List Char) : Option (List Char × List Char) :=
  let name := cs.takeWhile (· ≠ '>')
  match name, cs.drop name.length with
  | c :: more, _ :: left =>
    if isNameChar true c && more.all (isNameChar false) then some (name, left) else none
  | _, _ => none

namespace Place

def push (p : Place) (pattern : Pattern) (depth : Nat) : Place :=
  { p with level := p.level.push ⟨pattern, depth, true⟩ }

def openGroup (p : Place) (inside : Flags) : Place :=
  { p with level := {}, flags := inside, outer := (p.level, p.flags) :: p.outer }

def closeGroup? (p : Place) : Option Place :=
  match p.outer with
  | [] => none
  | (level, flags) :: outer =>
    let inner := p.level.close
    some { p with level := level.push ⟨inner.pattern, inner.depth + 1, true⟩, flags, outer }

def readGroup (p : Place) (cs : List Char) : Option (Place × List Char) :=
  match skip p.flags cs with
  | '?' :: '=' :: _ => none
  | '?' :: '!' :: _ => none
  | '?' :: '<' :: '=' :: _ => none
  | '?' :: '<' :: '!' :: _ => none
  | '?' :: 'P' :: '<' :: rest => named rest
  | '?' :: '<' :: rest => named rest
  | '?' :: rest => do
    let (flags, any, left) ← readFlags p.flags true [] rest
    if left.head? = some ':' then return (p.openGroup flags, left.drop 1)
    else if any then
      return ({ p with flags, level := p.level.push ⟨.empty, 0, false⟩ }, left.drop 1)
    else none
  | rest => some (p.openGroup p.flags, rest)
where
  /-- A group with a name, which no other group may have. -/
  named (rest : List Char) : Option (Place × List Char) := do
    let (name, left) ← readName rest
    if name ∈ p.names then none
    else return ({ p.openGroup p.flags with names := name :: p.names }, left)

/-- Skips the mark that makes a repetition prefer fewer rounds, which changes no answer here. -/
def skipLazy (cs : List Char) : List Char := if cs.head? = some '?' then cs.drop 1 else cs

def readCount (f : Flags) (cs : List Char) : Option ((Nat × Option Nat) × List Char) := do
  let (least, left) ← readNumber f (skip f cs)
  let (most, left) ←
    match left with
    | ',' :: left =>
      let left := skip f left
      if left.head? = some '\x7d' then pure (none, left)
      else do
        let (most, left) ← readNumber f left
        if least ≤ most then pure (some most, left) else none
    | left => pure (some least, left)
  match left with
  | '\x7d' :: left => return ((least, most), skipLazy (skip f left))
  | _ => none

def pushAtom? (p : Place) (a : Atom) : Option Place := do
  let pattern ←
    match a with
    | .literal c byte => (p.flags.literal? c byte).map .one
    | .look a => some (.look a)
    | .dot => p.flags.dot?.map .one
    | .class set? => set?.map .one
  return p.push pattern 0

def lineStart (f : Flags) : Assertion :=
  if !f.multiLine then .textStart else if f.anyLine then .anyLineStart else .lineStart

def lineEnd (f : Flags) : Assertion :=
  if !f.multiLine then .textEnd else if f.anyLine then .anyLineEnd else .lineEnd

def repeat? (p : Place) (least : Nat) (most : Option Nat) : Option Place :=
  (p.level.repeat? least most).map fun level => { p with level }

def step (p : Place) : List Char → Option (Place × List Char)
  | [] => some (p, [])
  | '(' :: rest => p.readGroup rest
  | ')' :: rest => p.closeGroup?.map fun p => (p, rest)
  | '|' :: rest => some ({ p with level := p.level.endBranch }, rest)
  | '[' :: rest => do
    let (set, depth, left) ← readClass p.flags rest
    return (p.push (.one set) depth, left)
  | '?' :: rest => do return (← p.repeat? 0 (some 1), skipLazy rest)
  | '*' :: rest => do return (← p.repeat? 0 none, skipLazy rest)
  | '+' :: rest => do return (← p.repeat? 1 none, skipLazy rest)
  | '\x7b' :: rest => do
    let ((least, most), left) ← readCount p.flags rest
    return (← p.repeat? least most, left)
  | '\\' :: rest => do
    let (a, left) ← readEscape p.flags rest
    return (← p.pushAtom? a, left)
  | '.' :: rest => do return (← p.pushAtom? .dot, rest)
  | '^' :: rest => do return (← p.pushAtom? (.look (lineStart p.flags)), rest)
  | '$' :: rest => do return (← p.pushAtom? (.look (lineEnd p.flags)), rest)
  | c :: rest => do return (← p.pushAtom? (.literal c false), rest)

def finish? (p : Place) : Nat → List Char → Option Piece
  | 0, _ => none
  | fuel + 1, cs =>
    match skip p.flags cs with
    | [] => if p.outer.isEmpty then some p.level.close else none
    | cs => do
      let (p, left) ← p.step cs
      p.finish? fuel left

end Place

def depthLimit : Nat := 250

def sizeLimit : Nat := 10485760

def isNarrow : Pattern → Bool
  | empty => true
  | one _ => false
  | look _ => true
  | seq p q => isNarrow p && isNarrow q
  | alt p q => isNarrow p && isNarrow q
  | times p _ most => isNarrow p || most == some 0

/-- The bytes that the states of an automaton for the pattern take, as an estimate: a state takes 32
bytes and more for each range or branch, and a repetition takes its body once for each round that it
counts. -/
def automatonSize : Pattern → Nat
  | empty => 32
  | look _ => 32
  | one set =>
    match set.ranges with
    | [(low, high)] => if low = high then 32 * (Char.ofNat low).utf8Size else 72
    | ranges => if set.isAscii then 64 + 8 * ranges.length else 64 * ranges.length
  | seq p q => automatonSize p + automatonSize q
  | alt p q => automatonSize p + automatonSize q + 36
  | times p least most =>
    let once := automatonSize p
    if isNarrow p then once + 72
    else
      match most with
      | none => max least 1 * once + 72
      | some m => m * once + (m - least) * 40 + 32

inductive ReadError where
  | illFormed
  | tooLarge
deriving Repr, DecidableEq

def ReadError.message : ReadError → String
  | illFormed => "regex parse error: the pattern is not well-formed"
  | tooLarge => "Compiled regex exceeds size limit of " ++ toString sizeLimit ++ " bytes."

def parse (text : String) : Except ReadError Pattern :=
  let cs := text.toList
  match Place.finish? {} (cs.length + 1) cs with
  | none => .error .illFormed
  | some piece =>
    if depthLimit < piece.depth then .error .illFormed
    else if sizeLimit < automatonSize piece.pattern then .error .tooLarge
    else .ok piece.pattern

end SpecTest.Pattern
