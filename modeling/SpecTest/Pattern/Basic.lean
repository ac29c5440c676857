import SpecTest.Unicode.Property

/-!
Patterns over names, and which names they match.

A pattern is read as a map on sets of positions: from the positions where a match may have got to,
`advance` computes those where it may have got to after the pattern.  A name matches when some
position can be reached from any position, so a match may start and end anywhere.
-/

namespace SpecTest

open SpecTest.Unicode

inductive Assertion where
  | textStart
  | textEnd
  | lineStart
  | lineEnd
  /-- At the start of a line that may end in a carriage return, a line feed or both in turn. -/
  | anyLineStart
  | anyLineEnd
  | wordEdge (word : CharSet)
  | notWordEdge (word : CharSet)
  | wordStart (word : CharSet)
  | wordEnd (word : CharSet)
  /-- Where no word goes on from the left. -/
  | wordStartHalf (word : CharSet)
  | wordEndHalf (word : CharSet)
deriving Repr, DecidableEq

/-- Does the assertion hold between the two characters?  At an end of the text there is none. -/
def Assertion.holds (before after : Option Char) : Assertion → Bool
  | textStart => before.isNone
  | textEnd => after.isNone
  | lineStart => before.isNone || before == some '\n'
  | lineEnd => after.isNone || after == some '\n'
  | anyLineStart =>
    before.isNone || before == some '\n' || (before == some '\r' && after != some '\n')
  | anyLineEnd =>
    after.isNone || after == some '\r' || (after == some '\n' && before != some '\r')
  | wordEdge w => w.containsAt before != w.containsAt after
  | notWordEdge w => w.containsAt before == w.containsAt after
  | wordStart w => !w.containsAt before && w.containsAt after
  | wordEnd w => w.containsAt before && !w.containsAt after
  | wordStartHalf w => !w.containsAt before
  | wordEndHalf w => !w.containsAt after

inductive Pattern where
  | empty
  | one (set : CharSet)
  | look (assertion : Assertion)
  | seq (first second : Pattern)
  | alt (left right : Pattern)
  /-- The pattern at least `least` and at most `most` times in a row. -/
  | times (body : Pattern) (least : Nat) (most : Option Nat)
deriving Repr, Inhabited

namespace Pattern

/-- A set of positions of a text: one flag for each, the position before the first character
first. -/
abbrev Reach := List Bool

def Reach.union (r s : Reach) : Reach := List.zipWith (· || ·) r s

/-- Applies `step` as often as given, or until it changes nothing any more. -/
def applyTimes (step : Reach → Reach) : Nat → Reach → Reach
  | 0, r => r
  | n + 1, r =>
    let next := step r
    if next = r then r else applyTimes step n next

/-- The positions where a match may be after the pattern, from those where it may be before. -/
def advance (text : List Char) : Pattern → Reach → Reach
  | empty, r => r
  | one set, r => false :: List.zipWith (fun here c => here && set.contains c) r text
  | look a, r =>
    let befores := none :: text.map some
    let afters := text.map some ++ [none]
    List.zipWith (fun here (around : Option Char × Option Char) =>
      here && a.holds around.1 around.2) r (befores.zip afters)
  | seq p q, r => advance text q (advance text p r)
  | alt p q, r => Reach.union (advance text p r) (advance text q r)
  | times p least most, r =>
    let start := applyTimes (advance text p) least r
    let more := fun s => Reach.union s (advance text p s)
    match most with
    | some m => applyTimes more (m - least) start
    | none => applyTimes more (text.length + 1) start

def isMatch (p : Pattern) (s : String) : Bool :=
  let text := s.toList
  (p.advance text (List.replicate (text.length + 1) true)).any id

def seqAll : List Pattern → Pattern
  | [] => empty
  | [p] => p
  | p :: ps => seq p (seqAll ps)

def altAll : List Pattern → Pattern
  | [] => empty
  | [p] => p
  | p :: ps => alt p (altAll ps)

end Pattern

end SpecTest
