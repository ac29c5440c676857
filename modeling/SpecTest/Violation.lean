import SpecTest.Data.Ascending

/-!
Violations that a run raises, and the category of each by its code.
-/

namespace SpecTest

open SpecTest.Data

structure Violation where
  code : Int64
  message : String
deriving DecidableEq, Repr, Inhabited

def Violation.text (v : Violation) : String :=
  "Error " ++ toString v.code.toInt ++ ": " ++ v.message

inductive Outcome where
  | returned
  | violated (violation : Violation)
deriving DecidableEq, Repr, Inhabited

inductive ViolationCategory where
  | precondition
  | postcondition
  | invariant
  | unrecognized
deriving DecidableEq, Repr, Inhabited

abbrev CodeSet := Ascending Int64.toInt

def CodeSet.contains (s : CodeSet) (code : Int64) : Bool := s.toList.contains code

structure ViolationCodes where
  precondition : CodeSet := Ascending.ofList [4055, 4071]
  postcondition : CodeSet := Ascending.ofList [4056, 4072]
  invariant : CodeSet := Ascending.ofList [4060, 4079, 4082]
deriving DecidableEq, Inhabited

namespace ViolationCodes

/-- The category of a code: the first of precondition, postcondition and invariant that lists it. -/
def categoryOf (codes : ViolationCodes) (code : Int64) : ViolationCategory :=
  if codes.precondition.contains code then .precondition
  else if codes.postcondition.contains code then .postcondition
  else if codes.invariant.contains code then .invariant
  else .unrecognized

def shared (s t : CodeSet) : CodeSet := s.filter t.contains

/-- The codes that more than one category lists. -/
def overlapping (codes : ViolationCodes) : List Int64 :=
  let found : CodeSet := Ascending.ofList <|
    (shared codes.precondition codes.postcondition).toList ++
    (shared codes.precondition codes.invariant).toList ++
    (shared codes.postcondition codes.invariant).toList
  found.toList

end ViolationCodes

end SpecTest
