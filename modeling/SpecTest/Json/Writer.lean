import SpecTest.Json.Value

/-!
The texts of JSON values, without blanks.

A character of a text stands for itself, unless it would end the text, begin an escape or is a
control character.
-/

namespace SpecTest.Json

/-- The four digits of a control character. -/
def controlDigits (c : Char) : List Char :=
  ['0', '0', Nat.digitChar (c.toNat / 16), Nat.digitChar (c.toNat % 16)]

def charText : Char → List Char
  | '"' => ['\\', '"']
  | '\\' => ['\\', '\\']
  | '\x08' => ['\\', 'b']
  | '\x0c' => ['\\', 'f']
  | '\n' => ['\\', 'n']
  | '\r' => ['\\', 'r']
  | '\t' => ['\\', 't']
  | c => if c.toNat < 0x20 then '\\' :: 'u' :: controlDigits c else [c]

/-- What stands between the quotes of a text; half of a surrogate pair is no sequence of
characters. -/
def bodyText : Option String → List Char
  | some t => t.toList.flatMap charText
  | none => ['\\', 'u', 'd', '8', '0', '0']

def quoted (t : Option String) : List Char := '"' :: (bodyText t ++ ['"'])

def signed (negative : Bool) (digits : List Char) : List Char :=
  if negative then '-' :: digits else digits

def exponentText : Int → List Char
  | .ofNat e => Nat.toDigits 10 e
  | .negSucc e => '-' :: Nat.toDigits 10 (e + 1)

mutual

def Value.chars : Value → List Char
  | .null => ['n', 'u', 'l', 'l']
  | .bool true => ['t', 'r', 'u', 'e']
  | .bool false => ['f', 'a', 'l', 's', 'e']
  | .whole negative size => signed negative (Nat.toDigits 10 size)
  | .real negative mantissa exponent =>
    signed negative (Nat.toDigits 10 mantissa ++ 'e' :: exponentText exponent)
  | .string t => quoted t
  | .array items => '[' :: itemChars items
  | .object fields => '\x7b' :: fieldChars fields

/-- The items of an array up to its end. -/
def itemChars : List Value → List Char
  | [] => [']']
  | [v] => v.chars ++ [']']
  | v :: next :: rest => v.chars ++ ',' :: itemChars (next :: rest)

/-- The fields of an object up to its end. -/
def fieldChars : List (Option String × Value) → List Char
  | [] => ['\x7d']
  | [(name, v)] => quoted name ++ ':' :: (v.chars ++ ['\x7d'])
  | (name, v) :: next :: rest => quoted name ++ ':' :: (v.chars ++ ',' :: fieldChars (next :: rest))

end

def Value.text (v : Value) : String := String.ofList v.chars

end SpecTest.Json
