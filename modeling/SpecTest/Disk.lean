import SpecTest.Failure

/-!
A file system: which files and directories there are, and how its operations change it.

Entries are addressed by the names on the way from the root.  An operation is given a path, which is
followed from the root or from the working directory, one segment after the other.
-/

namespace SpecTest

abbrev Address := List String

inductive Entry where
  | file (text : String)
  | directory
deriving DecidableEq, Repr, Inhabited

/-- A file system with a working directory.  The root is always there. -/
structure Disk where
  entries : List (Address × Entry) := []
  workDir : Address := []
  /-- Was the working directory removed?  One that is made in its place later is another one. -/
  workDirGone : Bool := false
deriving DecidableEq, Repr, Inhabited

namespace Disk

def nameLimit : Nat := 255

/-- The number of bytes that a path stays below. -/
def pathLimit : Nat := 4096

def find? (d : Disk) (a : Address) : Option Entry :=
  if a.isEmpty then some .directory else d.entries.lookup a

def put (d : Disk) (a : Address) (e : Entry) : Disk :=
  { d with entries := d.entries.filter (·.1 != a) ++ [(a, e)] }

def isInside (a dir : Address) : Bool := dir.isPrefixOf a && a != dir

def clear (d : Disk) (a : Address) : Disk where
  entries := d.entries.filter fun e => !isInside e.1 a
  workDir := d.workDir
  workDirGone := d.workDirGone || isInside d.workDir a

def erase (d : Disk) (a : Address) : Disk where
  entries := d.entries.filter (·.1 != a)
  workDir := d.workDir
  workDirGone := d.workDirGone || d.workDir == a

/-- Follows a segment of a path from an address, which has to be that of a directory. -/
def step (d : Disk) (a : Address) (segment : String) : Except IoError Address :=
  match d.find? a with
  | none => .error .notFound
  | some (.file _) => .error .notDirectory
  | some .directory =>
    match Path.partOf? segment with
    | none => .ok a
    | some .up => .ok a.dropLast
    | some (.name n) => if nameLimit < n.utf8ByteSize then .error .nameTooLong else .ok (a ++ [n])
    | some _ => .ok a

def follow (d : Disk) (a : Address) (segments : List String) : Except IoError Address :=
  segments.foldlM d.step a

/-- The address from which a path is followed, if the path can be one at all.  From a working directory
that was removed no path leads anywhere. -/
def start (d : Disk) (p : Path) : Except IoError Address :=
  if p.text.toList.contains '\x00' then .error .nulInName
  else if p.text = "" then .error .notFound
  else if pathLimit ≤ p.text.utf8ByteSize then .error .nameTooLong
  else if p.isAbsolute then .ok []
  else if d.workDirGone then .error .notFound
  else .ok d.workDir

def lookup (d : Disk) (p : Path) : Except IoError (Address × Entry) := do
  let a ← d.follow (← d.start p) p.segments
  match d.find? a with
  | none => .error .notFound
  | some e => return (a, e)

def isThere (d : Disk) (p : Path) : Bool := (d.lookup p).isOk

def isDirectory (d : Disk) (p : Path) : Bool :=
  match d.lookup p with
  | .ok (_, .directory) => true
  | _ => false

def readText (d : Disk) (p : Path) : Except IoError String := do
  match ← d.lookup p with
  | (_, .file text) => return text
  | (_, .directory) => .error .isDirectory

def trimmedSegments (p : Path) : List String := (p.segments.reverse.dropWhile (· == "")).reverse

/-- The address of the directory that holds what a path makes or removes: where all its segments but
the last one lead to. -/
def parentAddress (d : Disk) (p : Path) : Except IoError Address := do
  let a ← d.follow (← d.start p) (trimmedSegments p).dropLast
  d.step a "."

/-- The address where a path makes or removes an entry: that of its last segment in the directory
that the others lead to.  There is none if the last segment does not name an entry. -/
def lastAddress (d : Disk) (p : Path) : Except IoError (Option Address) := do
  let last := (trimmedSegments p).getLastD ""
  let a ← d.step (← d.parentAddress p) last
  match Path.partOf? last with
  | some (.name _) => return some a
  | _ => return none

def makeDirectory (d : Disk) (p : Path) : Except IoError Disk := do
  match ← d.lastAddress p with
  | none => .error .alreadyExists
  | some a => if (d.find? a).isSome then .error .alreadyExists else return d.put a .directory

/-- Makes a directory and those that are missing on the way to it.  Gives the file system also where
that fails half way. -/
def createTreeFrom : Nat → Disk → Path → Except IoError Unit × Disk
  | 0, d, _ => (.error .noTree, d)
  | fuel + 1, d, p =>
    if p.text = "" then (.ok (), d)
    else
      let again (e : IoError) (d : Disk) : Except IoError Unit × Disk :=
        if d.isDirectory p then (.ok (), d) else (.error e, d)
      match d.makeDirectory p with
      | .ok d => (.ok (), d)
      | .error .notFound =>
        match p.parent? with
        | none => (.error .noTree, d)
        | some parent =>
          match createTreeFrom fuel d parent with
          | (.error e, d) => (.error e, d)
          | (.ok (), d) =>
            match d.makeDirectory p with
            | .ok d => (.ok (), d)
            | .error e => again e d
      | .error e => again e d

def createTree (d : Disk) (p : Path) : Except IoError Unit × Disk :=
  createTreeFrom (p.text.length + 1) d p

/-- Writes a file, in place of any file that is there.  A slash at the end asks for a directory,
whatever name is before it. -/
def writeText (d : Disk) (p : Path) (text : String) : Except IoError Disk := do
  if p.endsInSlash then
    let _ ← d.parentAddress p
    throw .isDirectory
  match ← d.lastAddress p with
  | none => throw .isDirectory
  | some a =>
    if d.find? a = some .directory then throw .isDirectory
    return d.put a (.file text)

/-- Removes a directory with all that is in it.  The entries go first.  The path is then followed
once more for the directory itself.  It stays where it is the root and where the path ends in a segment
that does not name it, which are errors, and where the path goes through one of the entries, which is
none. -/
def removeTree (d : Disk) (p : Path) : Except IoError Unit × Disk :=
  match d.lookup p with
  | .error e => (.error e, d)
  | .ok (_, .file _) => (.error .notDirectory, d)
  | .ok (a, .directory) =>
    let cleared := d.clear a
    match cleared.parentAddress p with
    | .error .notFound => (.ok (), cleared)
    | .error e => (.error e, cleared)
    | .ok _ =>
      match (trimmedSegments p).getLastD "" with
      | "." => (.error .invalidArgument, cleared)
      | ".." => (.error .notEmpty, cleared)
      | "" => (.error .busy, cleared)
      | _ => (.ok (), cleared.erase a)

end Disk

end SpecTest
