import SpecTest.Unicode.Property

/-!
The characters of white space, range by range.
-/

namespace SpecTest.Unicode

def whiteSpaceRanges : List (Nat × Nat) :=
  [(9, 13), (32, 32), (133, 133), (160, 160), (5760, 5760), (8192, 8202), (8232, 8233), (8239, 8239),
    (8287, 8287), (12288, 12288)]

/-- The ranges are sorted already, so that they need not be sorted to be decided. -/
theorem whiteSpace_eq : whiteSpace = ⟨whiteSpaceRanges⟩ := by
  have table : (propertyRanges.lookup "whitespace").map
      (fun rows => (tableWords rows).map decodeRange) = some whiteSpaceRanges := by
    decide +kernel
  obtain ⟨rows, found, ranges⟩ := Option.map_eq_some_iff.mp table
  rw [whiteSpace, listed, listed?, found, Option.map_some, Option.getD_some, ranges, CharSet.ofRanges,
    List.mergeSort_of_pairwise (by decide)]
  decide

end SpecTest.Unicode
