import SpecTest.CommandLine.Program

/-!
What the program writes to the error output, line by line.
-/

namespace SpecTest.CommandLine

open SpecTest.Text

def colorNumber : LogLevel → Nat
  | .error => 31
  | .warn => 33
  | .info => 32
  | .debug => 34

def inColor (number : Nat) (text : String) : String :=
  "\x1b[" ++ toString number ++ "m" ++ text ++ "\x1b[0m"

def levelText (l : LogLevel) : String :=
  String.ofList (List.replicate (5 - l.name.length) ' ') ++ l.name

def hexText (n : Nat) : String := String.ofList (Nat.toDigits 16 n)

/-- A character of a message; the controls that a terminal would obey are shown by their codes. -/
def visible (c : Char) : String :=
  let n := c.toNat
  if n = 0x1B ∨ n = 0x7 ∨ n = 0x8 ∨ n = 0xC ∨ n = 0x7F then
    "\\x" ++ (if n < 0x10 then "0" else "") ++ hexText n
  else if 0x80 ≤ n ∧ n ≤ 0x9F then "\\u\x7b" ++ hexText n ++ "\x7d"
  else c.toString

def logLine (colored : Bool) (e : LogEvent) : String :=
  let level := levelText e.level
  (if colored then inColor (colorNumber e.level) level else level) ++ " " ++
    String.join (e.message.toList.map visible)

def noticeLine (colored : Bool) (text : String) : String :=
  (if colored then "ℹ " else "INFO ") ++ text

def errorLine (f : Failure) : String := "Error: " ++ f.message

end SpecTest.CommandLine
