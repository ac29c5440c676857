import SpecTest.Data.Sum
import SpecTest.Location
import SpecTest.Text.Split

/-!
Where the positions of a text lie among its characters.
-/

namespace SpecTest.Coverage

open SpecTest.Data SpecTest.Text

abbrev Lines := List (List Char)

/-- The lines of a text; the last one follows the last line feed. -/
def linesOf (text : List Char) : Lines := splitAt '\n' text

/-- The number of characters in front of the position, if the text has the position.  Column zero
stands for the first column, and the column behind the last character belongs to the line. -/
def Lines.offset? (lines : Lines) (p : Position) : Option Nat :=
  match p.line.toNat with
  | 0 => none
  | index + 1 =>
    match lines[index]? with
    | none => none
    | some line =>
      let col := p.col.toNat - 1
      if col ≤ line.length then
        some (sumOf ((lines.take index).map fun l => l.length + 1) + col)
      else none

def byteOffset? (text : List Char) (p : Position) : Option Nat :=
  ((linesOf text).offset? p).map fun k => sumOf ((text.take k).map Char.utf8Size)

end SpecTest.Coverage
