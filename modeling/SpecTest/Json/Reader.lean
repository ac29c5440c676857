import SpecTest.Json.Value
import SpecTest.Text.Digits
import SpecTest.Text.Split

/-!
JSON values from their text.

Every reader gets the characters that are left and gives what it read with the characters after it,
or nothing where the text is not well-formed.
-/

namespace SpecTest.Json

open SpecTest.Text

def isBlank (c : Char) : Bool := c == ' ' || c == '\n' || c == '\t' || c == '\r'

def skipBlanks (cs : List Char) : List Char := cs.dropWhile isBlank

/-- One unit of a text: a character, or half of a surrogate pair by its number. -/
inductive TextUnit where
  | char (c : Char)
  | half (code : Nat)

def readCode (cs : List Char) : Option (Nat × List Char) :=
  if (cs.take 4).length = 4 then (natIn? 16 (cs.take 4)).map fun n => (n, cs.drop 4) else none

def readEscape : List Char → Option (TextUnit × List Char)
  | '"' :: rest => some (.char '"', rest)
  | '\\' :: rest => some (.char '\\', rest)
  | '/' :: rest => some (.char '/', rest)
  | 'b' :: rest => some (.char '\x08', rest)
  | 'f' :: rest => some (.char '\x0c', rest)
  | 'n' :: rest => some (.char '\n', rest)
  | 'r' :: rest => some (.char '\r', rest)
  | 't' :: rest => some (.char '\t', rest)
  | 'u' :: rest => do
    let (n, left) ← readCode rest
    return (match charOfCode? n with | some c => .char c | none => .half n, left)
  | _ => none

def readUnits : Nat → List Char → Option (List TextUnit × List Char)
  | 0, _ => none
  | fuel + 1, cs =>
    match cs with
    | [] => none
    | '"' :: rest => some ([], rest)
    | '\\' :: rest => do
      let (u, left) ← readEscape rest
      let (us, left) ← readUnits fuel left
      return (u :: us, left)
    | c :: rest =>
      if c.toNat < 0x20 then none
      else (readUnits fuel rest).map fun (us, left) => (.char c :: us, left)

/-- The characters of the units, where halves have to come in pairs. -/
def joinUnits : List TextUnit → Option (List Char)
  | [] => some []
  | .char c :: rest => (joinUnits rest).map (c :: ·)
  | .half high :: .half low :: rest =>
    if high < 0xDC00 ∧ 0xDC00 ≤ low then
      (joinUnits rest).map (Char.ofNat (0x10000 + (high - 0xD800) * 0x400 + (low - 0xDC00)) :: ·)
    else none
  | .half _ :: _ => none

def readText (cs : List Char) : Option (Option String × List Char) :=
  (readUnits (cs.length + 1) cs).map fun (us, left) => ((joinUnits us).map String.ofList, left)

def readDigits (cs : List Char) : Option (List Char × List Char) :=
  let digits := cs.takeWhile isDecimal
  if digits.isEmpty then none else some (digits, cs.drop digits.length)

/-- The digits in front of the point: a zero stands alone. -/
def readWhole (cs : List Char) : Option (List Char × List Char) := do
  let (digits, left) ← readDigits cs
  if digits.head? = some '0' ∧ 1 < digits.length then none else return (digits, left)

def readFraction : List Char → Option (Option (List Char) × List Char)
  | '.' :: rest => (readDigits rest).map fun (ds, left) => (some ds, left)
  | cs => some (none, cs)

def readExponent : List Char → Option (Option Int × List Char)
  | c :: rest =>
    if c = 'e' ∨ c = 'E' then do
      let (negative, rest) : Bool × List Char :=
        match rest with
        | '+' :: rest => (false, rest)
        | '-' :: rest => (true, rest)
        | rest => (false, rest)
      let (digits, left) ← readDigits rest
      let n ← natIn? 10 digits
      return (some (if negative then -(n : Int) else n), left)
    else some (none, c :: rest)
  | [] => some (none, [])

def readNumber (cs : List Char) : Option (Value × List Char) := do
  let negative := cs.head? = some '-'
  let (whole, left) ← readWhole (if negative then cs.drop 1 else cs)
  let (fraction, left) ← readFraction left
  let (exponent, left) ← readExponent left
  let n ← natIn? 10 (whole ++ fraction.getD [])
  if fraction.isNone ∧ exponent.isNone then return (.whole negative n, left)
  else return (.real negative n (exponent.getD 0 - ((fraction.getD []).length : Int)), left)

mutual

def readValue : Nat → List Char → Option (Value × List Char)
  | 0, _ => none
  | fuel + 1, cs =>
    match skipBlanks cs with
    | [] => none
    | 'n' :: 'u' :: 'l' :: 'l' :: rest => some (.null, rest)
    | 't' :: 'r' :: 'u' :: 'e' :: rest => some (.bool true, rest)
    | 'f' :: 'a' :: 'l' :: 's' :: 'e' :: rest => some (.bool false, rest)
    | '"' :: rest => (readText rest).map fun (t, left) => (.string t, left)
    | '[' :: rest =>
      match skipBlanks rest with
      | ']' :: left => some (.array [], left)
      | rest => (readItems fuel rest).map fun (items, left) => (.array items, left)
    | '\x7b' :: rest =>
      match skipBlanks rest with
      | '\x7d' :: left => some (.object [], left)
      | rest => (readFields fuel rest).map fun (fields, left) => (.object fields, left)
    | rest => readNumber rest

def readItems : Nat → List Char → Option (List Value × List Char)
  | 0, _ => none
  | fuel + 1, cs => do
    let (v, left) ← readValue fuel cs
    match skipBlanks left with
    | ']' :: left => return ([v], left)
    | ',' :: left =>
      let (vs, left) ← readItems fuel left
      return (v :: vs, left)
    | _ => none

def readFields : Nat → List Char → Option (List (Option String × Value) × List Char)
  | 0, _ => none
  | fuel + 1, cs =>
    match skipBlanks cs with
    | '"' :: rest => do
      let (name, left) ← readText rest
      match skipBlanks left with
      | ':' :: left =>
        let (v, left) ← readValue fuel left
        match skipBlanks left with
        | '\x7d' :: left => return ([(name, v)], left)
        | ',' :: left =>
          let (fields, left) ← readFields fuel left
          return ((name, v) :: fields, left)
        | _ => none
      | _ => none
    | _ => none

end

def parse? (text : String) : Option Value := do
  let cs := text.toList
  let (v, left) ← readValue (cs.length + 1) cs
  if (skipBlanks left).isEmpty then some v else none

end SpecTest.Json
