import SpecTest.Number.Binary64

/-!
The share of covered locations.
-/

namespace SpecTest.Coverage

open SpecTest.Number

/-- The share of covered locations in hundredths.  Where there is none, all of them are covered. -/
def percent (covered total : Nat) : Binary64 :=
  if total = 0 then Binary64.ofNat 100
  else ((Binary64.ofNat 100).mul (Binary64.ofNat covered)).div (Binary64.ofNat total)

def percentText (x : Binary64) : String := x.twoDecimals ++ "%"

end SpecTest.Coverage
