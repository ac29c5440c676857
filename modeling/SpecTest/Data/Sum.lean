/-!
The sum of a list of numbers, and that of a list of words.
-/

namespace SpecTest.Data

def sumOf (numbers : List Nat) : Nat := numbers.foldr (· + ·) 0

@[simp] theorem sumOf_nil : sumOf [] = 0 := rfl

@[simp] theorem sumOf_cons (n : Nat) (numbers : List Nat) :
    sumOf (n :: numbers) = n + sumOf numbers :=
  rfl

theorem sumOf_append (front back : List Nat) : sumOf (front ++ back) = sumOf front + sumOf back := by
  induction front with
  | nil => simp
  | cons n front ih => simp [ih, Nat.add_assoc]

/-- Adds words up, unless an addition on the way does not fit into a word. -/
def sumWithin? (before : UInt64) : List UInt64 → Option UInt64
  | [] => some before
  | n :: rest => if before.toNat + n.toNat < UInt64.size then sumWithin? (before + n) rest else none

end SpecTest.Data
