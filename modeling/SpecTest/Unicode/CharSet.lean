/-!
Sets of characters as ranges of code points.

A set is kept as inclusive ranges in ascending order with at least one missing code point between
two neighbours, so equal sets have equal ranges.  The universe is every code point up to `10FFFF`.
-/

namespace SpecTest.Unicode

def maxCodePoint : Nat := 0x10FFFF

/-- A set of code points, kept as ascending ranges that neither meet nor overlap. -/
structure CharSet where
  ranges : List (Nat × Nat)
deriving Repr, DecidableEq, Inhabited

namespace CharSet

def empty : CharSet := ⟨[]⟩

def all : CharSet := ⟨[(0, maxCodePoint)]⟩

def range (first last : Nat) : CharSet := if first ≤ last then ⟨[(first, last)]⟩ else empty

def single (c : Char) : CharSet := ⟨[(c.toNat, c.toNat)]⟩

def hasCode (s : CharSet) (n : Nat) : Bool :=
  s.ranges.any fun r => decide (r.1 ≤ n) && decide (n ≤ r.2)

def contains (s : CharSet) (c : Char) : Bool := s.hasCode c.toNat

def containsAt (s : CharSet) : Option Char → Bool
  | some c => s.contains c
  | none => false

/-- Joins ranges in ascending order of their starts that meet or overlap. -/
def coalesce : List (Nat × Nat) → List (Nat × Nat)
  | [] => []
  | r :: rest => go r rest
where
  go (r : Nat × Nat) : List (Nat × Nat) → List (Nat × Nat)
    | [] => [r]
    | s :: rest =>
      if s.1 ≤ r.2 + 1 then go (r.1, max r.2 s.2) rest else r :: go s rest

def ofRanges (rs : List (Nat × Nat)) : CharSet :=
  ⟨coalesce (rs.mergeSort fun a b => decide (a.1 ≤ b.1))⟩

def union (s t : CharSet) : CharSet :=
  match s.ranges, t.ranges with
  | [], _ => t
  | _, [] => s
  | rs, ts => ofRanges (rs ++ ts)

def complementTo (top : Nat) (s : CharSet) : CharSet := ⟨go 0 s.ranges⟩
where
  go (start : Nat) : List (Nat × Nat) → List (Nat × Nat)
    | [] => if start ≤ top then [(start, top)] else []
    | r :: rest =>
      if start < r.1 then (start, r.1 - 1) :: go (r.2 + 1) rest else go (r.2 + 1) rest

def complement (s : CharSet) : CharSet := s.complementTo maxCodePoint

def inter (s t : CharSet) : CharSet := (s.complement.union t.complement).complement

def diff (s t : CharSet) : CharSet := s.inter t.complement

def symmDiff (s t : CharSet) : CharSet := (s.union t).diff (s.inter t)

def isAscii (s : CharSet) : Bool := s.ranges.all fun r => decide (r.2 < 128)

end CharSet

end SpecTest.Unicode
