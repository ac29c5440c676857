import SpecTest.Data.Ascending

/-!
Places in source text, and how often each of them was executed.
-/

namespace SpecTest

open SpecTest.Data

structure Position where
  line : UInt32
  col : UInt32
deriving DecidableEq, Repr, Inhabited

namespace Position

/-- Numbers the positions line by line. -/
def key (p : Position) : Nat := p.line.toNat * UInt32.size + p.col.toNat

def before (p q : Position) : Bool := p.line < q.line || (p.line == q.line && p.col < q.col)

def first : Position := ⟨1, 1⟩

def text (p : Position) : String := toString p.line.toNat ++ ":" ++ toString p.col.toNat

end Position

/-- A stretch of source text: `finish` is the position behind its last character. -/
structure Location where
  start : Position
  finish : Position
deriving DecidableEq, Repr, Inhabited

namespace Location

def ofNumbers (startLine startCol finishLine finishCol : UInt32) : Location :=
  ⟨⟨startLine, startCol⟩, ⟨finishLine, finishCol⟩⟩

/-- Numbers the locations in the order of their starts, and of their ends for one start. -/
def key (l : Location) : Int := (l.start.key * UInt64.size + l.finish.key : Nat)

def isMultiline (l : Location) : Bool := l.start.line != l.finish.line

def startsBefore (l : Location) (p : Position) : Bool := l.start.before p

def text (l : Location) : String := l.start.text ++ "-" ++ l.finish.text

end Location

structure Hit where
  location : Location
  count : UInt64
deriving DecidableEq, Repr, Inhabited

namespace Hit

def isCovered (h : Hit) : Bool := 0 < h.count

def key (h : Hit) : Int := h.location.key

end Hit

/-- One hit for each location, in the order of the locations. -/
abbrev HitTable := Ascending Hit.key

end SpecTest
