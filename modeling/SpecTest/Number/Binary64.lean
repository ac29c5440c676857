import SpecTest.Text.Digits

/-!
Floating-point numbers of 64 bits, computed exactly.

A finite number is a sign, a whole mantissa and a power of two.  Every operation is computed in
whole numbers and rounded once, to the nearest number of 53 binary digits and to the even one of
two.
-/

namespace SpecTest.Number

open SpecTest.Text

def divideHalfEven (num den : Nat) : Nat :=
  let q := num / den
  let twice := 2 * (num % den)
  if twice < den then q
  else if den < twice then q + 1
  else if q % 2 = 0 then q else q + 1

/-- A number of 64 bits: `finite` stands for `mantissa * 2 ^ exponent` with a sign. -/
inductive Binary64 where
  | nan
  | infinite (negative : Bool)
  | finite (negative : Bool) (mantissa : Nat) (exponent : Int)
deriving DecidableEq, Repr, Inhabited

namespace Binary64

/-- The leading binary digit of a mantissa, which the bits leave out. -/
def leadingBit : Nat := 1 <<< 52

def zero : Binary64 := finite false 0 0

def scaled (num den : Nat) (exponent : Int) : Nat × Nat :=
  match exponent with
  | .ofNat e => (num, den <<< e)
  | .negSucc e => (num <<< (e + 1), den)

/-- The number nearest to `num / den`, where neither is zero and the exponent stays in range. -/
def ofRatio (num den : Nat) : Binary64 :=
  let guess : Int := (Nat.log2 num : Int) - Nat.log2 den - 52
  let front := scaled num den guess
  let exponent := if front.1 / front.2 < leadingBit then guess - 1 else guess
  let exact := scaled num den exponent
  let mantissa := divideHalfEven exact.1 exact.2
  if mantissa = 2 * leadingBit then finite false leadingBit (exponent + 1) else finite false mantissa exponent

def ofNat (n : Nat) : Binary64 := if n = 0 then zero else ofRatio n 1

def magnitude : Binary64 → Nat × Nat
  | finite _ m (.ofNat e) => (m <<< e, 1)
  | finite _ m (.negSucc e) => (m, 1 <<< (e + 1))
  | _ => (0, 1)

def mul (x y : Binary64) : Binary64 :=
  let num := x.magnitude.1 * y.magnitude.1
  if num = 0 then zero else ofRatio num (x.magnitude.2 * y.magnitude.2)

/-- The quotient of two finite numbers without signs, the second of which is not zero. -/
def div (x y : Binary64) : Binary64 :=
  let num := x.magnitude.1 * y.magnitude.2
  if num = 0 then zero else ofRatio num (x.magnitude.2 * y.magnitude.1)

def ofBits (bits : UInt64) : Binary64 :=
  let n := bits.toNat
  let negative := decide (1 <<< 63 ≤ n)
  let field : Nat := n / leadingBit % 2048
  let fraction := n % leadingBit
  if field = 2047 then if fraction = 0 then infinite negative else nan
  else if field = 0 then finite negative fraction (-1074)
  else finite negative (fraction + leadingBit) ((field : Int) - 1075)

/-- The bits of a number whose mantissa has 53 binary digits, or is zero. -/
def toBits : Binary64 → UInt64
  | nan => 0x7FF8000000000000
  | infinite negative => if negative then 0xFFF0000000000000 else 0x7FF0000000000000
  | finite negative mantissa exponent =>
    let sign := if negative then 1 <<< 63 else 0
    if mantissa = 0 then UInt64.ofNat sign
    else UInt64.ofNat (sign + (exponent + 1075).toNat * leadingBit + (mantissa - leadingBit))

/-- A finite number with two decimals: its exact value rounded, and a half to the even digit. -/
def twoDecimals : Binary64 → String
  | nan => "NaN"
  | infinite negative => if negative then "-inf" else "inf"
  | finite negative mantissa exponent =>
    let exact := magnitude (finite negative mantissa exponent)
    let hundredths := divideHalfEven (100 * exact.1) exact.2
    let sign := if negative then "-" else ""
    sign ++ toString (hundredths / 100) ++ "." ++ padded 2 (hundredths % 100)

end Binary64

end SpecTest.Number
