import SpecTest.Text.Split

/-!
Paths of files and directories.

A path is kept as it was written.  What it means is in its parts: slashes that repeat or end the
path and inner `.` segments do not count, and two paths with equal parts are spellings of one.
-/

namespace SpecTest

open SpecTest.Text

inductive PathPart where
  | root
  | here
  | up
  | name (n : String)
deriving DecidableEq, Repr

structure Path where
  text : String
deriving DecidableEq, Repr, Inhabited

namespace Path

def segments (p : Path) : List String := split '/' p.text

def isAbsolute (p : Path) : Bool := p.text.toList.head? = some '/'

def endsInSlash (p : Path) : Bool := p.text.toList.getLast? = some '/'

/-- The part that a segment stands for, unless it does not count. -/
def partOf? (segment : String) : Option PathPart :=
  if segment = "" ∨ segment = "." then none
  else if segment = ".." then some .up
  else some (.name segment)

def parts (p : Path) : List PathPart :=
  if p.isAbsolute then .root :: p.segments.filterMap partOf?
  else if p.segments.head? = some "." then .here :: p.segments.filterMap partOf?
  else p.segments.filterMap partOf?

def same (p q : Path) : Bool := p.parts == q.parts

def startsWith (p dir : Path) : Bool := dir.parts.isPrefixOf p.parts

/-- The path seen from `base`: an absolute path stays as it is. -/
def join (base p : Path) : Path :=
  if p.isAbsolute then p
  else if base.text = "" ∨ base.endsInSlash then ⟨base.text ++ p.text⟩
  else ⟨base.text ++ "/" ++ p.text⟩

def child (dir : Path) (name : String) : Path := dir.join ⟨name⟩

def partText : PathPart → String
  | .root => ""
  | .here => "."
  | .up => ".."
  | .name n => n

def ofParts : List PathPart → Path
  | [.root] => ⟨"/"⟩
  | parts => ⟨"/".intercalate (parts.map partText)⟩

def normalize (p : Path) : Path := ofParts (p.parts.filter (· ≠ .here))

/-- The name of the entry that the path leads to, unless it ends in `..` or leads to the root. -/
def fileName? (p : Path) : Option String :=
  match p.parts.getLast? with
  | some (.name n) => some n
  | _ => none

/-- Does a segment count?  A `.` does at the start only. -/
def segmentCounts (first : Bool) (segment : String) : Bool :=
  !(segment == "" || (segment == "." && !first))

/-- Drops the segments at the end that do not count.  The list starts with the last segment. -/
def dropIdle (relative : Bool) : List String → List String
  | [] => []
  | s :: before =>
    if segmentCounts (relative && before.isEmpty) s then s :: before else dropIdle relative before

/-- The path of the directory around the entry, unless the path has no last entry. -/
def parent? (p : Path) : Option Path :=
  let body := if p.isAbsolute then p.segments.drop 1 else p.segments
  match dropIdle (!p.isAbsolute) body.reverse with
  | [] => none
  | _ :: before =>
    let rest := (dropIdle (!p.isAbsolute) before).reverse
    some ⟨(if p.isAbsolute then "/" else "") ++ "/".intercalate rest⟩

/-- What follows the last point of the name, if something stands before that point. -/
def extension? (p : Path) : Option String := do
  let name ← p.fileName?
  let backwards := name.toList.reverse
  let ending := backwards.takeWhile (· ≠ '.')
  let before := backwards.drop (ending.length + 1)
  if before.isEmpty then none else some (String.ofList ending.reverse)

/-- The last name of the path, or the whole path if it ends in none. -/
def displayName (p : Path) : String := p.fileName?.getD p.text

end Path

end SpecTest
