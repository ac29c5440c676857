import SpecTest.Json.Value
import SpecTest.Text.Digits
import SpecTest.Text.Split

/-!
What plain scalars stand for: nothing, truth values and numbers.
-/

namespace SpecTest.Yaml

open SpecTest.Text

def isNullText (s : String) : Bool := s == "null" || s == "Null" || s == "NULL" || s == "~"

def boolText? (s : String) : Option Bool :=
  if s == "true" || s == "True" || s == "TRUE" then some true
  else if s == "false" || s == "False" || s == "FALSE" then some false
  else none

def startsSign (cs : List Char) : Bool := cs.head? == some '+' || cs.head? == some '-'

def dropPlus (cs : List Char) : List Char := if cs.head? = some '+' then cs.drop 1 else cs

def dropSign (cs : List Char) : List Char := if startsSign cs then cs.drop 1 else cs

/-- Does the number have zeros in front, so that it is a text? -/
def hasZerosInFront (cs : List Char) : Bool :=
  match dropSign cs with
  | '0' :: rest => !rest.isEmpty && rest.all isDecimal
  | _ => false

def basedNat? (cs : List Char) : Option Nat :=
  match cs with
  | '0' :: 'x' :: rest => natIn? 16 rest
  | '0' :: 'o' :: rest => natIn? 8 rest
  | '0' :: 'b' :: rest => natIn? 2 rest
  | _ => none

def natText? (s : String) : Option Nat :=
  let cs := s.toList
  let digits := dropPlus cs
  if startsSign digits || hasZerosInFront cs then none
  else basedNat? digits <|> natIn? 10 digits

def negativeText? (s : String) : Option Int :=
  match s.toList with
  | '-' :: digits =>
    if hasZerosInFront digits then none
    else (basedNat? digits <|> natIn? 10 digits).map fun n => -(n : Int)
  | _ => none

def intText? (s : String) : Option Int :=
  match natText? s with
  | some n => some n
  | none => negativeText? s

/-- Digits with a point among them or not: their value and the number of digits behind the point. -/
def pointDigits? (cs : List Char) : Option (Nat × Nat) :=
  match splitAt '.' cs with
  | [whole] => (natIn? 10 whole).map fun n => (n, 0)
  | [whole, fraction] => (natIn? 10 (whole ++ fraction)).map fun n => (n, fraction.length)
  | _ => none

def isDecimalText (cs : List Char) : Bool :=
  let isMark (c : Char) : Bool := c == 'e' || c == 'E'
  let mantissa := cs.takeWhile fun c => !isMark c
  let exponent? : Option Int :=
    match cs.drop mantissa.length with
    | [] => some 0
    | _ :: '-' :: rest => (natIn? 10 rest).map fun n => -(n : Int)
    | _ :: rest => (natIn? 10 (dropPlus rest)).map fun n => (n : Int)
  match pointDigits? mantissa, exponent? with
  | some (n, places), some e => Json.Value.isFiniteReal n (e - places)
  | _, _ => false

def isFloatText (s : String) : Bool :=
  let cs := s.toList
  let digits := dropPlus cs
  let special := [".inf", ".Inf", ".INF"]
  if cs.head? = some '+' ∧ startsSign digits then false
  else
    special.contains (String.ofList digits) ||
    (special.map ("-" ++ ·)).contains s ||
    [".nan", ".NaN", ".NAN"].contains s ||
    isDecimalText (dropSign digits)

inductive Plain where
  | nothing
  | bool (b : Bool)
  | int (n : Int)
  /-- A number that takes more than 64 bits, up to 128. -/
  | wide
  | float
  | text
deriving DecidableEq, Repr

/-- The number as what it stands for, as far as 128 bits hold it. -/
def Plain.ofInt? (n : Int) : Option Plain :=
  if -((1 <<< 63 : Nat) : Int) ≤ n ∧ n < (1 <<< 64 : Nat) then some (.int n)
  else if -((1 <<< 127 : Nat) : Int) ≤ n ∧ n < (1 <<< 128 : Nat) then some .wide
  else none

def Plain.ofText (s : String) : Plain :=
  if s == "" || isNullText s then .nothing
  else
    match boolText? s with
    | some b => .bool b
    | none =>
      match (intText? s).bind Plain.ofInt? with
      | some p => p
      | none => if !hasZerosInFront s.toList && isFloatText s then .float else .text

end SpecTest.Yaml
