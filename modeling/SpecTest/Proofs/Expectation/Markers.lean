import SpecTest.Expectation
import SpecTest.Proofs.Text.Rewriting
import SpecTest.Proofs.Unicode.Lowercase

/-!
Which names of tests announce a failure.

The whole of Unicode is lower-cased before the markers are looked for, but only the letters of ASCII count:
a name announces a failure exactly where its marker stands in it in large or small letters.
-/

namespace SpecTest.Expectation

open SpecTest.Text SpecTest.Unicode

variable {name other : String} {e : Expectation}

/-- Are the texts equal up to the case of the letters of ASCII? -/
def SameLetters (cs ds : List Char) : Prop := cs.map Char.toLower = ds.map Char.toLower

instance (cs ds : List Char) : Decidable (SameLetters cs ds) :=
  inferInstanceAs (Decidable (cs.map Char.toLower = ds.map Char.toLower))

/-- Does the marker stand in the name, in large or small letters? -/
def MarkerIn (e : Expectation) (name : String) : Prop :=
  ∃ run, run <:+: name.toList ∧ SameLetters run e.marker.toList

theorem marker_steady (e : Expectation) : SteadyRun e.marker.toList := by
  cases e <;> decide +kernel

theorem marker_lower (e : Expectation) : e.marker.toList.map Char.toLower = e.marker.toList := by
  cases e <;> decide +kernel

theorem markerIn_iff : e.MarkerIn name ↔ e.marker.toList <:+: name.toList.map Char.toLower := by
  rw [List.infix_map_iff]
  refine exists_congr fun run => and_congr_right fun _ => ?_
  rw [SameLetters, marker_lower, eq_comm]

theorem isAnnounced_iff (e : Expectation) (name : String) :
    e.isAnnounced (lowercaseText name).toList = true ↔ e.MarkerIn name := by
  rw [isAnnounced, containsRun_iff, lowercaseText, String.toList_ofList,
    infix_lowercaseFrom_iff (marker_steady e), markerIn_iff]

theorem markerIn_congr (same : SameLetters other.toList name.toList) :
    e.MarkerIn other ↔ e.MarkerIn name := by
  rw [markerIn_iff, markerIn_iff, same]

theorem ofName_congr (same : ∀ e : Expectation, e.MarkerIn other ↔ e.MarkerIn name) :
    ofName other = ofName name := by
  have found (e : Expectation) : e.isAnnounced (lowercaseText other).toList =
      e.isAnnounced (lowercaseText name).toList := by
    rw [Bool.eq_iff_iff, isAnnounced_iff, isAnnounced_iff, same e]
  simp only [ofName, found]

/-- A name is in the class of the first of the three markers that stands in it.  Lower-casing it makes no
marker and breaks none, and the case of its letters does not matter. -/
theorem ofName_eq_iff (name : String) :
    (ofName name = preconditionFailure ↔ preconditionFailure.MarkerIn name) ∧
    (ofName name = postconditionFailure ↔
      ¬ preconditionFailure.MarkerIn name ∧ postconditionFailure.MarkerIn name) ∧
    (ofName name = invariantFailure ↔ ¬ preconditionFailure.MarkerIn name ∧
      ¬ postconditionFailure.MarkerIn name ∧ invariantFailure.MarkerIn name) ∧
    (ofName name = success ↔ ¬ preconditionFailure.MarkerIn name ∧
      ¬ postconditionFailure.MarkerIn name ∧ ¬ invariantFailure.MarkerIn name) ∧
    (∀ e : Expectation, e.marker.toList <:+: (lowercaseText name).toList ↔ e.MarkerIn name) ∧
    ∀ other : String, SameLetters other.toList name.toList → ofName other = ofName name := by
  have announced (e : Expectation) := (isAnnounced_iff e name).symm
  refine ⟨?_, ?_, ?_, ?_, fun e => ?_, fun other same => ?_⟩
  · rw [announced, ofName]
    grind
  · rw [announced, announced, ofName]
    grind
  · rw [announced, announced, announced, ofName]
    grind
  · rw [announced, announced, announced, ofName]
    grind
  · rw [announced, isAnnounced, containsRun_iff]
  · exact ofName_congr fun e => markerIn_congr same

/-- Where a marker has an `i`, a capital `I` with a point stands in the name, so that only the marker behind it
counts. -/
theorem ofName_eq_iff_dotted :
    SameLetters "TESTEXPECTİNVARIANTFAILUREexpectPostconditionFailure".toList
      "TestExpectİnvariantFailureExpectPostconditionFailure".toList ∧
    ofName "TESTEXPECTİNVARIANTFAILUREexpectPostconditionFailure" =
      ofName "TestExpectİnvariantFailureExpectPostconditionFailure" ∧
    ofName "TestExpectİnvariantFailureExpectPostconditionFailure" = postconditionFailure := by
  have same : SameLetters "TESTEXPECTİNVARIANTFAILUREexpectPostconditionFailure".toList
      "TestExpectİnvariantFailureExpectPostconditionFailure".toList := by decide +kernel
  exact ⟨same, (ofName_eq_iff _).2.2.2.2.2 _ same, by decide +kernel⟩

end SpecTest.Expectation
