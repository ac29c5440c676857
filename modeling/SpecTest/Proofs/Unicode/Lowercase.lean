import Mathlib.Data.List.Infix
import SpecTest.Unicode.Case

/-!
What lower-casing does to the letters of ASCII.

It changes nothing but their case, and makes such a letter of only two other characters: an `i` with a point
above behind it, and a `k`.  So a run of small letters without `k` that does not end in `i` stands in a
lower-cased text exactly where its letters, large or small, stand in the text.
-/

namespace SpecTest.Unicode

section Characters

variable {c : Char}

theorem lowercaseChar_of_ascii (ascii : c.toNat < 0x80) : lowercaseChar c = [c.toLower] := by
  have each : ∀ n < 0x80, lowercaseChar (Char.ofNat n) = [(Char.ofNat n).toLower] := by
    decide +kernel
  have found := each c.toNat ascii
  rwa [Char.ofNat_toNat] at found

theorem toLower_of_foreign (foreign : 0x80 ≤ c.toNat) : c.toLower = c := by
  refine dif_neg fun large => ?_
  have upTo : c.toNat ≤ 'Z'.toNat := large.2
  exact absurd (Nat.le_trans foreign upTo) (by decide)

/-- Every row for characters outside ASCII leads to such characters, but for the sign of the kelvin. -/
theorem lowercaseShifts_foreign : ∀ s ∈ lowercaseShifts, s.last < 0x80 ∨ s = ⟨0x212A, 0x212A, 1, -8383⟩ ∨
    0x80 ≤ s.first + s.offset ∧ (s.last + s.offset < 0xD800 ∨
      0xE000 ≤ s.first + s.offset ∧ s.last + s.offset < 0x110000) := by
  decide +kernel

theorem lowercaseChar_foreign (foreign : 0x80 ≤ c.toNat) (notDotted : c ≠ '\u0130')
    (notKelvin : c ≠ '\u212A') : ∃ d : Char, lowercaseChar c = [d] ∧ 0x80 ≤ d.toNat := by
  rw [lowercaseChar, if_neg notDotted, applyShifts]
  cases row : lowercaseShifts.find? (·.covers c.toNat) with
  | none => exact ⟨c, by rw [Char.ofNat_toNat], foreign⟩
  | some s =>
      have covered : (s.first ≤ c.toNat ∧ c.toNat ≤ s.last) ∧ (c.toNat - s.first) % s.step = 0 := by
        simpa [Shift.covers] using List.find?_some row
      have notKelvinCode : c.toNat ≠ 0x212A := fun same =>
        notKelvin (Char.ofNat_toNat c ▸ congrArg Char.ofNat same)
      have led : 0x80 ≤ s.target c.toNat ∧ (s.target c.toNat).isValidChar := by
        simp only [Shift.target, Nat.isValidChar, Int.ofNat_eq_natCast]
        rcases lowercaseShifts_foreign s (List.mem_of_find?_eq_some row) with inAscii | kelvin | leads
        · omega
        · have only : s.first = 0x212A ∧ s.last = 0x212A := by rw [kelvin]; exact ⟨rfl, rfl⟩
          omega
        · omega
      refine ⟨Char.ofNat (s.target c.toNat), rfl, ?_⟩
      rw [Char.ofNat, dif_pos led.2]
      exact led.1

end Characters

section Runs

/-- Small letters of ASCII that lower-casing makes of no character but themselves and their capitals. -/
def isSteady (c : Char) : Bool := c.isLower && c != 'k'

/-- Is this a run that lower-casing puts together of letters only?  The `i` that it makes of another
character has no letter behind it. -/
structure SteadyRun (run : List Char) : Prop where
  letters : ∀ c ∈ run, isSteady c
  ending : run.getLast? ≠ some 'i'

instance (run : List Char) : Decidable (SteadyRun run) :=
  decidable_of_iff (run.all isSteady = true ∧ run.getLast? ≠ some 'i')
    ⟨fun both => ⟨List.all_eq_true.mp both.1, both.2⟩,
      fun steady => ⟨List.all_eq_true.mpr steady.letters, steady.ending⟩⟩

theorem not_isSteady_of_foreign {c : Char} (foreign : 0x80 ≤ c.toNat) : isSteady c = false := by
  have tooLarge : ¬ c.toNat ≤ 'z'.toNat := fun upTo => absurd (Nat.le_trans foreign upTo) (by decide)
  have notLower : c.isLower = false := Bool.and_eq_false_iff.mpr (.inr (decide_eq_false tooLarge))
  rw [isSteady, notLower, Bool.false_and]

theorem SteadyRun.tail {c : Char} {run : List Char} (steady : SteadyRun (c :: run)) : SteadyRun run where
  letters d member := steady.letters d (List.mem_cons_of_mem c member)
  ending atEnd := by
    refine steady.ending ?_
    rw [List.getLast?_cons, atEnd]
    rfl

/-- A character is lower-cased to its small letter, or stands on neither side for a steady one. -/
theorem lowercaseFrom_cons (before : List Char) (c : Char) (rest : List Char) :
    (∃ d, lowercaseFrom before (c :: rest) = d :: lowercaseFrom (c :: before) rest ∧
      (d = c.toLower ∨ isSteady d = false ∧ isSteady c.toLower = false)) ∨
    (lowercaseFrom before (c :: rest) = 'i' :: '\u0307' :: lowercaseFrom (c :: before) rest ∧
      isSteady c.toLower = false) := by
  by_cases sigma : c = 'Σ'
  · refine .inl ?_
    rw [lowercaseFrom, if_pos sigma, sigma]
    by_cases final : startsCased before && !startsCased rest
    · rw [if_pos final]
      exact ⟨'ς', rfl, .inr (by decide)⟩
    · rw [if_neg final]
      exact ⟨'σ', rfl, .inr (by decide)⟩
  · rw [lowercaseFrom, if_neg sigma]
    by_cases ascii : c.toNat < 0x80
    · refine .inl ⟨c.toLower, ?_, .inl rfl⟩
      rw [lowercaseChar_of_ascii ascii]
      rfl
    · have foreign : 0x80 ≤ c.toNat := Nat.le_of_not_lt ascii
      have notSteady : isSteady c.toLower = false := by
        rw [toLower_of_foreign foreign]
        exact not_isSteady_of_foreign foreign
      by_cases dotted : c = '\u0130'
      · refine .inr ⟨?_, notSteady⟩
        rw [dotted]
        rfl
      · by_cases kelvin : c = '\u212A'
        · refine .inl ⟨'k', ?_, .inr ⟨by decide, notSteady⟩⟩
          have toK : lowercaseChar '\u212A' = ['k'] := by decide +kernel
          rw [kelvin, toK]
          rfl
        · obtain ⟨d, lower, foreignToo⟩ := lowercaseChar_foreign foreign dotted kelvin
          refine .inl ⟨d, ?_, .inr ⟨not_isSteady_of_foreign foreignToo, notSteady⟩⟩
          rw [lower]
          rfl

theorem prefix_lowercaseFrom_iff {run : List Char} (steady : SteadyRun run) (before cs : List Char) :
    run <+: lowercaseFrom before cs ↔ run <+: cs.map Char.toLower := by
  induction cs generalizing run before with
  | nil => rw [lowercaseFrom, List.map_nil]
  | cons c rest ih =>
      cases run with
      | nil => exact iff_of_true List.nil_prefix List.nil_prefix
      | cons x run =>
          have x_steady := steady.letters x List.mem_cons_self
          have ne_x {d : Char} (other : isSteady d = false) : x ≠ d := fun same => by
            rw [same, other] at x_steady
            contradiction
          rw [List.map_cons, List.cons_prefix_cons]
          rcases lowercaseFrom_cons before c rest with ⟨d, lower, same | ⟨other, otherToo⟩⟩ | ⟨lower, other⟩
          · rw [lower, List.cons_prefix_cons, same, ih steady.tail]
          · rw [lower, List.cons_prefix_cons]
            exact iff_of_false (fun found => ne_x other found.1) fun found => ne_x otherToo found.1
          · refine iff_of_false (fun found => ?_) fun found => ne_x other found.1
            -- Behind the `i` the run would have to end or go on with the point.
            rw [lower, List.cons_prefix_cons] at found
            obtain ⟨rfl, found⟩ := found
            cases run with
            | nil => exact steady.ending rfl
            | cons y run =>
                have point := (List.cons_prefix_cons.mp found).1
                have y_steady := steady.letters y (by simp)
                rw [point] at y_steady
                exact absurd y_steady (by decide)

theorem infix_lowercaseFrom_iff {run : List Char} (steady : SteadyRun run) (before cs : List Char) :
    run <:+: lowercaseFrom before cs ↔ run <:+: cs.map Char.toLower := by
  induction cs generalizing before with
  | nil => rw [lowercaseFrom, List.map_nil]
  | cons c rest ih =>
      rw [List.map_cons, List.infix_cons_iff, ← List.map_cons, ← prefix_lowercaseFrom_iff steady before,
        ← ih (c :: before)]
      rcases lowercaseFrom_cons before c rest with ⟨d, lower, -⟩ | ⟨lower, -⟩
      · rw [lower, List.infix_cons_iff]
      · rw [lower, List.infix_cons_iff, List.infix_cons_iff]
        have notAtPoint : run <+: '\u0307' :: lowercaseFrom (c :: before) rest →
            run <:+: lowercaseFrom (c :: before) rest := by
          intro found
          cases run with
          | nil => exact List.nil_infix
          | cons x run =>
              have x_steady := steady.letters x List.mem_cons_self
              rw [(List.cons_prefix_cons.mp found).1] at x_steady
              exact absurd x_steady (by decide)
        exact or_congr_right ⟨fun found => found.elim notAtPoint id, .inr⟩

end Runs

end SpecTest.Unicode
