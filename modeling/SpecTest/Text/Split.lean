/-!
Cutting a list of characters at a separator.
-/

namespace SpecTest.Text

/-- The parts between the separators: always one more than there are separators. -/
def splitAt (sep : Char) : List Char → List (List Char)
  | [] => [[]]
  | c :: rest =>
    if c = sep then [] :: splitAt sep rest
    else
      match splitAt sep rest with
      | [] => [[c]]
      | part :: parts => (c :: part) :: parts

def split (sep : Char) (s : String) : List String :=
  (splitAt sep s.toList).map String.ofList

/-- The first part of a text up to the separator and what follows it, if the separator occurs. -/
def cut (sep : Char) (s : String) : String × Option String :=
  let front := s.toList.takeWhile (· ≠ sep)
  match s.toList.dropWhile (· ≠ sep) with
  | [] => (String.ofList front, none)
  | _ :: rest => (String.ofList front, some (String.ofList rest))

def startsWith (start s : List Char) : Bool := start.isPrefixOf s

def dropStart? (start s : List Char) : Option (List Char) :=
  if start.isPrefixOf s then some (s.drop start.length) else none

def containsRun (part : List Char) : List Char → Bool
  | [] => part.isEmpty
  | c :: rest => part.isPrefixOf (c :: rest) || containsRun part rest

end SpecTest.Text
