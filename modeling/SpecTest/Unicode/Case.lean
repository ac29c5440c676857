import SpecTest.Unicode.CaseTable
import SpecTest.Unicode.Property

/-!
Lower-casing of text and equality up to case.

`lowercaseText` is the full mapping: one character becomes two where the standard says so, and a
capital sigma at the end of a word becomes the final sigma.  `CharSet.closeCase` adds to a set every
character that differs from a member only in case.
-/

namespace SpecTest.Unicode

def lowercaseChar (c : Char) : List Char :=
  if c = '\u0130' then ['i', '\u0307'] else [Char.ofNat (applyShifts lowercaseShifts c.toNat)]

/-- Is the first character that case does not pass over a cased one? -/
def startsCased (cs : List Char) : Bool :=
  match cs.dropWhile caseIgnorable.contains with
  | c :: _ => cased.contains c
  | [] => false

/-- The lower case of a text, where `before` holds what precedes it, nearest first. -/
def lowercaseFrom (before : List Char) : List Char → List Char
  | [] => []
  | c :: rest =>
    let lower :=
      if c = 'Σ' then
        if startsCased before && !startsCased rest then ['ς'] else ['σ']
      else lowercaseChar c
    lower ++ lowercaseFrom (c :: before) rest

def lowercaseText (s : String) : String := String.ofList (lowercaseFrom [] s.toList)

def foldPairs : List (Nat × Nat) :=
  foldShifts.flatMap fun row => row.sources.map fun n => (n, row.target n)

def CharSet.closeCase (s : CharSet) : CharSet :=
  let folded := s.union
    (CharSet.ofRanges ((foldPairs.filter fun p => s.hasCode p.1).map fun p => (p.2, p.2)))
  folded.union
    (CharSet.ofRanges ((foldPairs.filter fun p => folded.hasCode p.2).map fun p => (p.1, p.1)))

def CharSet.closeAsciiCase (s : CharSet) : CharSet :=
  let letters := (List.range 26).map fun k => (0x41 + k, 0x61 + k)
  s.union (CharSet.ofRanges (letters.flatMap fun p =>
    (if s.hasCode p.1 then [(p.2, p.2)] else []) ++ (if s.hasCode p.2 then [(p.1, p.1)] else [])))

end SpecTest.Unicode
