import SpecTest.Text.Digits
import SpecTest.Unicode.Property

/-!
Points in local time: their texts, and reading them back.
-/

namespace SpecTest

open SpecTest.Text SpecTest.Unicode

/-- A point in local time.  In a leap second `second` is 59 and `nanos` counts from 10^9 on. -/
structure Timestamp where
  year : Int
  month : Nat
  day : Nat
  hour : Nat
  minute : Nat
  second : Nat
  nanos : Nat := 0
deriving DecidableEq, Repr, Inhabited

namespace Timestamp

def nanosPerSecond : Nat := 1000000000

/-- The year in four digits, or with a sign if those do not suffice. -/
def yearText (year : Int) : String :=
  if 0 ≤ year ∧ year ≤ 9999 then padded 4 year.toNat
  else (if year < 0 then "-" else "+") ++ padded 4 year.natAbs

def dateText (t : Timestamp) : String :=
  yearText t.year ++ "-" ++ padded 2 t.month ++ "-" ++ padded 2 t.day

/-- The time as `HH:MM:SS`, where a leap second is second 60. -/
def timeText (t : Timestamp) : String :=
  padded 2 t.hour ++ ":" ++ padded 2 t.minute ++ ":" ++
    padded 2 (t.second + t.nanos / nanosPerSecond)

/-- The part of a second in as many of 0, 3, 6 and 9 digits as it needs. -/
def fractionText (nanos : Nat) : String :=
  if nanos = 0 then ""
  else if nanos % 1000000 = 0 then "." ++ padded 3 (nanos / 1000000)
  else if nanos % 1000 = 0 then "." ++ padded 6 (nanos / 1000)
  else "." ++ padded 9 nanos

def plainText (t : Timestamp) : String := t.dateText ++ " " ++ t.timeText

def isoText (t : Timestamp) : String :=
  t.dateText ++ "T" ++ t.timeText ++ fractionText (t.nanos % nanosPerSecond)

def isLeapYear (year : Int) : Bool := year % 4 == 0 && (year % 100 != 0 || year % 400 == 0)

def daysIn (year : Int) (month : Nat) : Nat :=
  match month with
  | 2 => if isLeapYear year then 29 else 28
  | 4 | 6 | 9 | 11 => 30
  | _ => 31

def isValid (t : Timestamp) : Bool :=
  decide (-262143 ≤ t.year) && decide (t.year ≤ 262142) &&
  decide (1 ≤ t.month) && decide (t.month ≤ 12) &&
  decide (1 ≤ t.day) && decide (t.day ≤ daysIn t.year t.month) &&
  decide (t.hour < 24) && decide (t.minute < 60) && decide (t.second < 60)

def skipBlanks (cs : List Char) : List Char := cs.dropWhile whiteSpace.contains

def readNat (width : Nat) (cs : List Char) : Option (Nat × List Char) := do
  let cs := skipBlanks cs
  let digits := (cs.takeWhile isDecimal).take width
  let n ← natIn? 10 digits
  return (n, cs.drop digits.length)

/-- A year: of any length after a sign, else of at most four digits. -/
def readYear (cs : List Char) : Option (Int × List Char) :=
  match skipBlanks cs with
  | '-' :: rest =>
    if startsDigit rest then (readNat rest.length rest).map fun (n, r) => (-(n : Int), r)
      else none
  | '+' :: rest =>
    if startsDigit rest then (readNat rest.length rest).map fun (n, r) => ((n : Int), r)
      else none
  | rest => (readNat 4 rest).map fun (n, r) => ((n : Int), r)
where
  startsDigit (cs : List Char) : Bool := (cs.head?.map isDecimal).getD false

def readMark (mark : Char) (cs : List Char) : Option (List Char) :=
  match skipBlanks cs with
  | c :: rest => if c = mark then some rest else none
  | [] => none

/-- The part of a second after its point, in nanoseconds; digits after the ninth do not count. -/
def readFraction (cs : List Char) : Option (Nat × List Char) :=
  match cs with
  | '.' :: rest => do
    let digits := rest.takeWhile isDecimal
    let n ← natIn? 10 ((digits ++ List.replicate 9 '0').take 9)
    if digits.isEmpty then none else return (n, rest.drop digits.length)
  | _ => some (0, cs)

/-- Reads the text that `isoText` writes, with blanks and fewer digits allowed. -/
def parse? (text : String) : Option Timestamp := do
  let (year, cs) ← readYear text.toList
  let (month, cs) ← readNat 2 (← readMark '-' cs)
  let (day, cs) ← readNat 2 (← readMark '-' cs)
  let (hour, cs) ← readNat 2 (← readMark 'T' cs)
  let (minute, cs) ← readNat 2 (← readMark ':' cs)
  let (second, cs) ← readNat 2 (← readMark ':' cs)
  let (fraction, cs) ← readFraction cs
  let t : Timestamp :=
    if second = 60 then ⟨year, month, day, hour, minute, 59, nanosPerSecond + fraction⟩
    else ⟨year, month, day, hour, minute, second, fraction⟩
  if (skipBlanks cs).isEmpty && t.isValid then some t else none

end Timestamp

end SpecTest
