import SpecTest.Unicode.Case

/-!
Character classes of patterns under the flags in force.

With Unicode on, classes are sets of code points; with Unicode off they are sets of bytes, and one
that holds a byte above `7F` is refused because it could match half a character.
-/

namespace SpecTest.Pattern

open SpecTest.Unicode

structure Flags where
  caseless : Bool := false
  multiLine : Bool := false
  dotAll : Bool := false
  unicode : Bool := true
  anyLine : Bool := false
  spaced : Bool := false
deriving Repr, DecidableEq

def asciiWord : CharSet := CharSet.ofRanges [(0x30, 0x39), (0x41, 0x5A), (0x5F, 0x5F), (0x61, 0x7A)]

def asciiSpace : CharSet := CharSet.ofRanges [(0x9, 0xD), (0x20, 0x20)]

def asciiDigit : CharSet := CharSet.range 0x30 0x39

def asciiClass? (name : String) : Option CharSet :=
  let ranges? : Option (List (Nat × Nat)) :=
    match name with
    | "alnum" => some [(0x30, 0x39), (0x41, 0x5A), (0x61, 0x7A)]
    | "alpha" => some [(0x41, 0x5A), (0x61, 0x7A)]
    | "ascii" => some [(0x0, 0x7F)]
    | "blank" => some [(0x9, 0x9), (0x20, 0x20)]
    | "cntrl" => some [(0x0, 0x1F), (0x7F, 0x7F)]
    | "digit" => some [(0x30, 0x39)]
    | "graph" => some [(0x21, 0x7E)]
    | "lower" => some [(0x61, 0x7A)]
    | "print" => some [(0x20, 0x7E)]
    | "punct" => some [(0x21, 0x2F), (0x3A, 0x40), (0x5B, 0x60), (0x7B, 0x7E)]
    | "space" => some [(0x9, 0xD), (0x20, 0x20)]
    | "upper" => some [(0x41, 0x5A)]
    | "word" => some [(0x30, 0x39), (0x41, 0x5A), (0x5F, 0x5F), (0x61, 0x7A)]
    | "xdigit" => some [(0x30, 0x39), (0x41, 0x46), (0x61, 0x66)]
    | _ => none
  ranges?.map CharSet.ofRanges

namespace Flags

def fold (f : Flags) (s : CharSet) : CharSet :=
  if !f.caseless then s else if f.unicode then s.closeCase else s.closeAsciiCase

/-- What is not in the set: of all characters, or of all bytes. -/
def negate (f : Flags) (s : CharSet) : CharSet :=
  if f.unicode then s.complement else s.complementTo 0xFF

/-- Folds and then negates, so that a letter is excluded in both cases. -/
def foldNegate (f : Flags) (negated : Bool) (s : CharSet) : CharSet :=
  if negated then f.negate (f.fold s) else f.fold s

/-- The class if it can only match whole characters. -/
def whole? (f : Flags) (s : CharSet) : Option CharSet :=
  if f.unicode || s.isAscii then some s else none

def word (f : Flags) : CharSet := if f.unicode then Unicode.word else asciiWord

def letterClass? (f : Flags) (kind : Char) (negated : Bool) : Option CharSet :=
  let base :=
    match kind with
    | 'd' => if f.unicode then decimalDigit else asciiDigit
    | 's' => if f.unicode then whiteSpace else asciiSpace
    | _ => f.word
  f.whole? (if negated then f.negate base else base)

def propertyClass? (f : Flags) (found : Option CharSet) (negated : Bool) : Option CharSet := do
  let s ← found
  if f.unicode then return f.foldNegate negated s else none

/-- What a literal character matches.  `byte` tells that it was written as a byte, which must be
ASCII when Unicode is off. -/
def literal? (f : Flags) (c : Char) (byte : Bool) : Option CharSet :=
  if !f.unicode && byte && 0x7F < c.toNat then none
  else if f.unicode || c.toNat < 128 then some (f.fold (CharSet.single c))
  else some (CharSet.single c)

def dot? (f : Flags) : Option CharSet :=
  if !f.unicode then none
  else if f.dotAll then some CharSet.all
  else if f.anyLine then some (CharSet.ofRanges [(0xA, 0xA), (0xD, 0xD)]).complement
  else some (CharSet.single '\n').complement

end Flags

end SpecTest.Pattern
