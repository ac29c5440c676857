import SpecTest.Pattern.Basic
import SpecTest.Pattern.Class
import SpecTest.Text.Digits
import SpecTest.Text.Split

/-!
Reading the parts of a pattern's text: blanks and comments, numbers, escapes, and bracketed
classes.

Every reader gets the characters that are left and gives what it read with the characters after
it, or nothing where the text is not well-formed.
-/

namespace SpecTest.Pattern

open SpecTest.Text SpecTest.Unicode

def isBlank (c : Char) : Bool := whiteSpace.contains c

def skipSpaced (comment : Bool) : List Char → List Char
  | [] => []
  | c :: rest =>
    if comment then skipSpaced (c != '\n') rest
    else if isBlank c then skipSpaced false rest
    else if c = '#' then skipSpaced true rest
    else c :: rest

def skip (f : Flags) (cs : List Char) : List Char :=
  if f.spaced then skipSpaced false cs else cs

/-- The first character that is neither blank nor the mark of a comment, after one such mark at
most. -/
def peekSpaced (marked : Bool) : List Char → Option Char
  | [] => none
  | c :: rest =>
    if isBlank c then peekSpaced marked rest
    else if c = '#' && !marked then peekSpaced true rest
    else some c

def peek (f : Flags) (cs : List Char) : Option Char :=
  if f.spaced then peekSpaced false cs else cs.head?

/-- The digits of a number, with blanks skipped between them where the flags allow. -/
def readDigits (f : Flags) : Nat → List Char → List Char × List Char
  | 0, cs => ([], cs)
  | fuel + 1, cs =>
    match cs with
    | [] => ([], [])
    | c :: rest =>
      if isDecimal c then
        let (ds, left) := readDigits f fuel (skip f rest)
        (c :: ds, left)
      else ([], c :: rest)

def readNumber (f : Flags) (cs : List Char) : Option (Nat × List Char) := do
  let cs := cs.dropWhile isBlank
  let (digits, left) := readDigits f cs.length cs
  let n ← natIn? 10 digits
  if n < UInt32.size then
    let left := if (left.head?.map isBlank).getD false then
      skip f (left.dropWhile isBlank) else left
    return (n, left.dropWhile isBlank)
  else none

inductive Atom where
  /-- A character; `byte` tells that it was written as a byte of two hexadecimal digits. -/
  | literal (c : Char) (byte : Bool)
  | look (assertion : Assertion)
  | dot
  | class (set? : Option CharSet)

/-- Hexadecimal digits of a fixed number, with blanks skipped before each but the first. -/
def readHexDigits (f : Flags) : Nat → List Char → Option (List Char × List Char)
  | 0, cs => some ([], cs)
  | n + 1, cs =>
    match cs with
    | [] => none
    | c :: rest => do
      if !isHex c then none
      let (ds, left) ← readHexDigits f n (skip f rest)
      return (c :: ds, left)

def readBraced (f : Flags) : Nat → List Char → Option (List Char × List Char)
  | 0, _ => none
  | fuel + 1, cs =>
    match skip f cs with
    | [] => none
    | c :: rest =>
      if c = '\x7d' then some ([], rest)
      else (readBraced f fuel rest).map fun (body, left) => (c :: body, left)

def readHex (f : Flags) (letter : Char) (cs : List Char) : Option (Atom × List Char) := do
  let cs := skip f cs
  if cs.head? = some '\x7b' then
    let (body, left) ← readBraced f cs.length (cs.drop 1)
    let c ← charOfCode? (← natIn? 16 body)
    return (.literal c false, skip f left)
  else
    let width := match letter with
      | 'x' => 2
      | 'u' => 4
      | _ => 8
    let (digits, left) ← readHexDigits f width cs
    let c ← charOfCode? (← natIn? 16 digits)
    return (.literal c (letter == 'x'), left)

def divideAt (sep : List Char) : List Char → Option (List Char × List Char)
  | [] => none
  | c :: rest =>
    if sep.isPrefixOf (c :: rest) then some ([], (c :: rest).drop sep.length)
    else (divideAt sep rest).map fun (front, back) => (c :: front, back)

def readProperty (f : Flags) (negated : Bool) (cs : List Char) : Option (Atom × List Char) := do
  let cs := skip f cs
  match cs with
  | [] => none
  | '\x7b' :: rest =>
    let (name, left) ← readBraced f (rest.length + 1) rest
    match divideAt ['!', '='] name with
    | some (key, value) =>
      return (.class (f.propertyClass? (propertyValue? key value) !negated), left)
    | none =>
      match divideAt [':'] name <|> divideAt ['='] name with
      | some (key, value) =>
        return (.class (f.propertyClass? (propertyValue? key value) negated), left)
      | none => return (.class (f.propertyClass? (property? name) negated), left)
  | '\\' :: _ => none
  | c :: rest => return (.class (f.propertyClass? (property? [c]) negated), skip f rest)

def readEdgeName (f : Flags) : Nat → List Char → List Char × List Char
  | 0, cs => ([], cs)
  | fuel + 1, cs =>
    match cs with
    | [] => ([], [])
    | c :: rest =>
      if isAsciiLetter c || c == '-' then
        let (name, left) := readEdgeName f fuel (skip f rest)
        (c :: name, left)
      else ([], c :: rest)

def readWordEdge (f : Flags) (cs : List Char) : Option (Atom × List Char) :=
  match cs with
  | '\x7b' :: rest =>
    match skip f rest with
    | [] => none
    | c :: more =>
      if isAsciiLetter c || c == '-' then
        let (name, left) := readEdgeName f (more.length + 1) (c :: more)
        match left with
        | '\x7d' :: left =>
          match String.ofList name with
          | "start" => some (.look (.wordStart f.word), left)
          | "end" => some (.look (.wordEnd f.word), left)
          | "start-half" => some (.look (.wordStartHalf f.word), left)
          | "end-half" => some (.look (.wordEndHalf f.word), left)
          | _ => none
        | _ => none
      else some (.look (.wordEdge f.word), cs)
  | _ => some (.look (.wordEdge f.word), cs)

/-- May the ASCII character be escaped though it means nothing special? -/
def isEscapable (c : Char) : Bool :=
  c.toNat < 128 && !(isDecimal c || isAsciiLetter c || c == '<' || c == '>')

def readEscape (f : Flags) : List Char → Option (Atom × List Char)
  | [] => none
  | c :: rest =>
    match c with
    | 'x' | 'u' | 'U' => readHex f c rest
    | 'p' => readProperty f false rest
    | 'P' => readProperty f true rest
    | 'd' | 's' | 'w' => some (.class (f.letterClass? c false), rest)
    | 'D' => some (.class (f.letterClass? 'd' true), rest)
    | 'S' => some (.class (f.letterClass? 's' true), rest)
    | 'W' => some (.class (f.letterClass? 'w' true), rest)
    | 'a' => some (.literal '\x07' false, rest)
    | 'f' => some (.literal '\x0C' false, rest)
    | 't' => some (.literal '\t' false, rest)
    | 'n' => some (.literal '\n' false, rest)
    | 'r' => some (.literal '\r' false, rest)
    | 'v' => some (.literal '\x0B' false, rest)
    | 'A' => some (.look .textStart, rest)
    | 'z' => some (.look .textEnd, rest)
    | 'b' => readWordEdge f rest
    | 'B' => some (.look (.notWordEdge f.word), rest)
    | '<' => some (.look (.wordStart f.word), rest)
    | '>' => some (.look (.wordEnd f.word), rest)
    | c => if isEscapable c then some (.literal c false, rest) else none

/-- The members of a bracketed class read so far, with what the limit on nesting counts. -/
structure Members where
  set : CharSet := CharSet.empty
  count : Nat := 0
  depth : Nat := 0

namespace Members

def add (m : Members) (s : CharSet) (depth : Nat) : Members :=
  ⟨m.set.union s, m.count + 1, max m.depth depth⟩

def nesting (m : Members) : Nat := if m.count ≤ 1 then m.depth else m.depth + 1

end Members

inductive SetOperation where
  | inter
  | diff
  | symmDiff

def SetOperation.apply : SetOperation → CharSet → CharSet → CharSet
  | inter => CharSet.inter
  | diff => CharSet.diff
  | symmDiff => CharSet.symmDiff

/-- What is open around the place that is read in a class. -/
inductive ClassFrame where
  | bracket (around : Members) (negated : Bool)
  | operation (op : SetOperation) (left : CharSet) (depth : Nat)

def closeOperations (f : Flags) (frames : List ClassFrame) (set : CharSet) (depth : Nat) :
    CharSet × Nat × List ClassFrame :=
  match frames with
  | .operation op left leftDepth :: rest =>
    closeOperations f rest (op.apply (f.fold left) (f.fold set)) (max leftDepth depth + 1)
  | _ => (set, depth, frames)

/-- The start of a class after its bracket: a negation, then hyphens or a closing bracket that
stand for themselves. -/
def readClassStart (f : Flags) (cs : List Char) : Option (Members × Bool × List Char) := do
  let cs := skip f cs
  let (negated, cs) := if cs.head? = some '^' then (true, skip f (cs.drop 1)) else (false, cs)
  if cs.isEmpty then none
  let (members, cs) := hyphens cs.length {} cs
  if cs.isEmpty then none
  if members.count = 0 ∧ cs.head? = some ']' then
    let cs := skip f (cs.drop 1)
    if cs.isEmpty then none
    return (members.add (CharSet.single ']') 0, negated, cs)
  return (members, negated, cs)
where
  hyphens : Nat → Members → List Char → Members × List Char
    | 0, m, cs => (m, cs)
    | fuel + 1, m, cs =>
      if cs.head? = some '-' then hyphens fuel (m.add (CharSet.single '-') 0) (skip f (cs.drop 1))
      else (m, cs)

def readNamedClass (f : Flags) (cs : List Char) : Option (CharSet × List Char) := do
  let rest ← dropStart? ['[', ':'] cs
  let (negated, rest) := if rest.head? = some '^' then (true, rest.drop 1) else (false, rest)
  let name := rest.takeWhile (· ≠ ':')
  let left ← dropStart? [':', ']'] (rest.drop name.length)
  let set ← asciiClass? (String.ofList name)
  return (f.foldNegate negated set, left)

def readMember (f : Flags) : List Char → Option (Atom × List Char)
  | [] => none
  | '\\' :: rest => readEscape f rest
  | c :: rest => some (.literal c false, rest)

def classLiteral? (f : Flags) : Atom → Option Char
  | .literal c _ => if f.unicode || c.toNat < 128 then some c else none
  | _ => none

def memberSet? (f : Flags) (a : Atom) : Option CharSet :=
  match a with
  | .class set? => set?
  | a => (classLiteral? f a).map CharSet.single

def readRange (f : Flags) (cs : List Char) : Option (CharSet × List Char) := do
  let (first, rest) ← readMember f cs
  let rest := skip f rest
  match rest with
  | [] => none
  | '-' :: after =>
    if peek f after = some ']' ∨ peek f after = some '-' then
      return (← memberSet? f first, rest)
    else
      let (last, left) ← readMember f (skip f after)
      let low ← classLiteral? f first
      let high ← classLiteral? f last
      if low ≤ high then return (CharSet.range low.toNat high.toNat, left) else none
  | _ => return (← memberSet? f first, rest)

/-- Goes on reading a class with the frames around the place and the members read so far, and gives
the class, its nesting and what follows it. -/
def readClassFrom (f : Flags) :
    Nat → List ClassFrame → Members → List Char → Option (CharSet × Nat × List Char)
  | 0, _, _, _ => none
  | fuel + 1, frames, members, cs =>
    match skip f cs with
    | [] => none
    | '[' :: rest =>
      match readNamedClass f ('[' :: rest) with
      | some (set, left) => readClassFrom f fuel frames (members.add set 0) left
      | none => do
        let (inner, negated, left) ← readClassStart f rest
        readClassFrom f fuel (.bracket members negated :: frames) inner left
    | ']' :: rest =>
      match closeOperations f frames members.set members.nesting with
      | (set, depth, [.bracket _ negated]) => do
        let set ← f.whole? (f.foldNegate negated set)
        return (set, depth + 1, rest)
      | (set, depth, .bracket around negated :: outer) => do
        let set ← f.whole? (f.foldNegate negated set)
        readClassFrom f fuel outer (around.add set (depth + 1)) rest
      | _ => none
    | '&' :: '&' :: rest => operand fuel frames members .inter rest
    | '-' :: '-' :: rest => operand fuel frames members .diff rest
    | '~' :: '~' :: rest => operand fuel frames members .symmDiff rest
    | cs => do
      let (set, left) ← readRange f cs
      readClassFrom f fuel frames (members.add set 0) left
where
  operand (fuel : Nat) (frames : List ClassFrame) (members : Members) (op : SetOperation)
      (rest : List Char) : Option (CharSet × Nat × List Char) :=
    match closeOperations f frames members.set members.nesting with
    | (set, depth, outer) => readClassFrom f fuel (.operation op set depth :: outer) {} rest

def readClass (f : Flags) (cs : List Char) : Option (CharSet × Nat × List Char) := do
  let (members, negated, left) ← readClassStart f cs
  readClassFrom f (left.length + 1) [.bracket {} negated] members left

end SpecTest.Pattern
