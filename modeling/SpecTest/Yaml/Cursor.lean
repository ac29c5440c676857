import SpecTest.Text.Digits

/-!
A place in a YAML text: the characters that are left, and how far the place is from the start of the
text and of its line.
-/

namespace SpecTest.Yaml

open SpecTest.Text

def isAllowed (c : Char) : Bool :=
  let n := c.toNat
  n == 0x9 || n == 0xA || n == 0xD || (0x20 ≤ n && n ≤ 0x7E) || n == 0x85 ||
    (0xA0 ≤ n && n ≤ 0xFFFD) || 0x10000 ≤ n

def isBreak (c : Char) : Bool :=
  c == '\n' || c == '\r' || c == '\u0085' || c == '\u2028' || c == '\u2029'

def isBlank (c : Char) : Bool := c == ' ' || c == '\t'

def isWordChar (c : Char) : Bool := isAsciiLetter c || isDecimal c || c == '-' || c == '_'

def endsWord : List Char → Bool
  | [] => true
  | c :: _ => isBlank c || isBreak c

structure Cursor where
  rest : List Char
  index : Nat := 0
  line : Nat := 0
  col : Nat := 0
deriving Inhabited

namespace Cursor

def head? (c : Cursor) : Option Char := c.rest.head?

def sees (c : Cursor) (ch : Char) : Bool := c.rest.head? == some ch

def atEnd (c : Cursor) : Bool := c.rest.isEmpty

def atBreak (c : Cursor) : Bool := (c.rest.head?.map isBreak).getD false

def atBlank (c : Cursor) : Bool := (c.rest.head?.map isBlank).getD false

def atLineEnd (c : Cursor) : Bool := c.atEnd || c.atBreak

def atWordEnd (c : Cursor) : Bool := endsWord c.rest

def skip (c : Cursor) (n : Nat) : Cursor :=
  ⟨c.rest.drop n, c.index + n, c.line, c.col + n⟩

def skipWhile (p : Char → Bool) (c : Cursor) : Cursor := c.skip (c.rest.takeWhile p).length

/-- Passes over the end of a line, if the line ends here, and gives the break that it stands for. -/
def takeBreak (c : Cursor) : List Char × Cursor :=
  match c.rest with
  | '\r' :: '\n' :: rest => (['\n'], ⟨rest, c.index + 2, c.line + 1, 0⟩)
  | ch :: rest =>
    let after : Cursor := ⟨rest, c.index + 1, c.line + 1, 0⟩
    if ch = '\u2028' ∨ ch = '\u2029' then ([ch], after)
    else if isBreak ch then (['\n'], after)
    else ([], c)
  | [] => ([], c)

def skipBreak (c : Cursor) : Cursor := c.takeBreak.2

def skipComment (c : Cursor) : Cursor :=
  if c.sees '#' then c.skipWhile fun ch => !isBreak ch else c

def skipBlanks (c : Cursor) : Cursor := c.skipWhile isBlank

/-- Do three of the characters stand at the start of the line, as a word of their own? -/
def atMarker (c : Cursor) (ch : Char) : Bool :=
  c.col == 0 && c.rest.take 3 == [ch, ch, ch] && endsWord (c.rest.drop 3)

def atDocumentMarker (c : Cursor) : Bool := c.atMarker '-' || c.atMarker '.'

end Cursor

/-- How the blanks and line ends between two parts of a scalar are read: with no line end between
them, the blanks stay; one line end becomes a space, and of more the first is dropped. -/
structure Gap where
  blanks : List Char := []
  first : Option (List Char) := none
  more : List Char := []

namespace Gap

def breaks (g : Gap) : Bool := g.first.isSome

def text (g : Gap) : List Char :=
  match g.first with
  | none => g.blanks
  | some ['\n'] => if g.more.isEmpty then [' '] else g.more
  | some b => b ++ g.more

end Gap

/-- Reads blanks and line ends.  A tab in the indentation of `indent` columns is refused. -/
def readGap (indent : Nat) : Nat → Gap → Cursor → Option (Gap × Cursor)
  | 0, _, _ => none
  | fuel + 1, g, c =>
    match c.head? with
    | none => some (g, c)
    | some ch =>
      if isBlank ch then
        if g.breaks then
          if ch = '\t' ∧ c.col < indent then none else readGap indent fuel g (c.skip 1)
        else readGap indent fuel { g with blanks := g.blanks ++ [ch] } (c.skip 1)
      else if isBreak ch then
        let (b, after) := c.takeBreak
        if g.breaks then readGap indent fuel { g with more := g.more ++ b } after
        else readGap indent fuel ⟨[], some b, []⟩ after
      else some (g, c)

end SpecTest.Yaml
