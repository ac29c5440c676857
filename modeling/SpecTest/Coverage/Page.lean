import SpecTest.Coverage.Lines
import SpecTest.Coverage.Table
import SpecTest.Failure
import SpecTest.Markup.Escape

/-!
The page of a source file, in which every location is marked as covered or not.

The text is cut into pieces first: each location with the text in front of it, and what is left at
the end.  The page writes the pieces one after the other.
-/

namespace SpecTest.Coverage

open SpecTest.Markup

/-- A marked piece of text with the plain text in front of it. -/
structure Mark where
  gap : List Char
  hit : Hit
  body : List Char
deriving Repr

def slice (text : List Char) (start stop : Nat) : List Char := (text.take stop).drop start

/-- Cuts the text behind the first `done` characters at the locations, which start at `cursor` or
later.  Gives the marks and the text that is left. -/
def marksFrom (file : Path) (text : List Char) (lines : Lines) (cursor : Position) (done : Nat) :
    List Hit → Except Failure (List Mark × List Char)
  | [] => .ok ([], text.drop done)
  | h :: rest =>
    let l := h.location
    if l.startsBefore cursor then .error (.overlappingLocations file l cursor)
    else
      match lines.offset? l.start, lines.offset? l.finish with
      | some start, some stop =>
        if start ≤ stop then do
          let (marks, left) ← marksFrom file text lines l.finish stop rest
          return (⟨slice text done start, h, slice text start stop⟩ :: marks, left)
        else .error (.locationOutOfRange file l)
      | _, _ => .error (.locationOutOfRange file l)

def FileCoverage.marks (c : FileCoverage) : Except Failure (List Mark × List Char) :=
  let text := c.text.toList
  marksFrom c.file text (linesOf text) Position.first 0 c.hits.toList

def openTag (h : Hit) : String :=
  if h.isCovered then
    "<span title=\"Hit " ++ toString h.count.toNat ++ " times\" " ++
      "style=\"background-color: #c4ffc5;\">"
  else "<span style=\"background-color: #ff9696;\">"

def closeTag : String := "</span>"

def Mark.page (m : Mark) : List Char :=
  escapeTags m.gap ++ (openTag m.hit).toList ++ escapeTags m.body ++ closeTag.toList

def pageBody (marks : List Mark) (left : List Char) : List Char :=
  marks.flatMap Mark.page ++ escapeTags left

def pageStart : String := "<html>\n<pre>\n"

def pageEnd : String := "\n</pre>\n</html>"

def FileCoverage.page (c : FileCoverage) : Except Failure String := do
  let (marks, left) ← c.marks
  return pageStart ++ String.ofList (pageBody marks left) ++ pageEnd

end SpecTest.Coverage
