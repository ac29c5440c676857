/-!
JSON values.

A text may name half of a surrogate pair alone, which stands for no character.  A document may hold
such a text where nobody reads it, so a text that is no sequence of characters is `none` here.
-/

namespace SpecTest.Json

inductive Value where
  | null
  | bool (b : Bool)
  | whole (negative : Bool) (size : Nat)
  /-- A number with a fraction or an exponent: `mantissa * 10 ^ exponent` with a sign. -/
  | real (negative : Bool) (mantissa : Nat) (exponent : Int)
  | string (text : Option String)
  | array (items : List Value)
  | object (fields : List (Option String × Value))
deriving Repr, Inhabited

namespace Value

def ofString (s : String) : Value := string (some s)

def ofNat (n : Nat) : Value := whole false n

def ofInt (n : Int) : Value := whole (n < 0) n.natAbs

def ofFields (fields : List (String × Value)) : Value :=
  object (fields.map fun f => (some f.1, f.2))

def ofOption (encode : α → Value) : Option α → Value
  | none => null
  | some a => encode a

def ofList (encode : α → Value) (items : List α) : Value := array (items.map encode)

/-- Does the number have a finite value in 64 bits? -/
def isFiniteReal (mantissa : Nat) (exponent : Int) : Bool :=
  let digits : Int := (toString mantissa).length
  if mantissa = 0 then true
  else if digits + exponent < 300 then true
  else if 320 < digits + exponent then false
  else
    match exponent with
    | .ofNat e => mantissa * Nat.pow 10 e < (1 <<< 1024) - (1 <<< 970)
    | .negSucc e => mantissa < ((1 <<< 1024) - (1 <<< 970)) * Nat.pow 10 (e + 1)

end Value

end SpecTest.Json
