import SpecTest.Text.Digits

/-!
The digits that a number is written in: what they are not, and reading them back.
-/

namespace SpecTest.Text

theorem not_mem_toDigits {c : Char} (notDigit : c.isDigit = false) (n : Nat) :
    c ∉ Nat.toDigits 10 n := by
  intro member
  rw [Nat.isDigit_of_mem_toDigits (by decide) (by decide) member] at notDigit
  contradiction

theorem digitIn?_of_isDigit {c : Char} (isDigit : c.isDigit) :
    digitIn? 10 c = some (c.toNat - '0'.toNat) := by
  simp only [Char.isDigit, Bool.and_eq_true, decide_eq_true_eq] at isDigit
  have bounds : '0' ≤ c ∧ c ≤ '9' := isDigit
  have small : c.toNat - '0'.toNat < 10 := by
    have atMost : c.toNat ≤ '9'.toNat := bounds.2
    have zero : '0'.toNat = 48 := rfl
    have nine : '9'.toNat = 57 := rfl
    omega
  simp only [digitIn?, digit?, if_pos bounds, if_pos small]

/-- A run of digits adds its value to what the digits in front of it stand for. -/
theorem foldl_digits {cs : List Char} (digits : ∀ c ∈ cs, c.isDigit) (before : Nat) :
    cs.foldl (fun acc c => do return (← acc) * 10 + (← digitIn? 10 c)) (some before) =
      some (Nat.ofDigitChars 10 cs before) := by
  induction cs generalizing before with
  | nil => rfl
  | cons c rest ih =>
      have first := digitIn?_of_isDigit (digits c List.mem_cons_self)
      rw [List.foldl_cons, Nat.ofDigitChars_cons, Nat.mul_comm 10 before,
        ← ih fun d member => digits d (List.mem_cons_of_mem c member)]
      simp [first]

theorem natIn?_of_digits {cs : List Char} (nonempty : cs ≠ []) (digits : ∀ c ∈ cs, c.isDigit) :
    natIn? 10 cs = some (Nat.ofDigitChars 10 cs 0) := by
  have someDigit : cs.isEmpty = false := by simpa using nonempty
  rw [natIn?, someDigit, if_neg Bool.false_ne_true, foldl_digits digits]

theorem isDigit_of_mem_toDigits (n : Nat) : ∀ c ∈ Nat.toDigits 10 n, c.isDigit := fun _ member =>
  Nat.isDigit_of_mem_toDigits (by decide) (by decide) member

theorem natIn?_toDigits (n : Nat) : natIn? 10 (Nat.toDigits 10 n) = some n := by
  rw [natIn?_of_digits Nat.toDigits_ne_nil (isDigit_of_mem_toDigits n),
    Nat.ofDigitChars_toDigits (by decide) (by decide)]

theorem natIn?_toString (n : Nat) : natIn? 10 (toString n).toList = some n := by
  rw [Nat.toString_eq_repr, Nat.toList_repr, natIn?_toDigits]

/-- Only zero is written with a zero in front. -/
theorem head?_toDigits {n : Nat} (positive : 0 < n) : (Nat.toDigits 10 n).head? ≠ some '0' := by
  induction n using Nat.strongRecOn with
  | ind n ih =>
      by_cases small : n < 10
      · have all : ∀ n < 10, 0 < n → some (Nat.digitChar n) ≠ some '0' := by decide
        rw [Nat.toDigits_of_lt_base small]
        exact all n small positive
      · have front := ih (n / 10) (by omega) (by omega)
        obtain ⟨c, digits, written⟩ := List.exists_cons_of_ne_nil (Nat.toDigits_ne_nil (b := 10) (n := n / 10))
        rw [Nat.toDigits_of_base_le (by decide) (by omega)]
        rw [written] at front ⊢
        exact front

section Padding

theorem toList_padded (width n : Nat) :
    ∃ zeros, (padded width n).toList = List.replicate zeros '0' ++ Nat.toDigits 10 n := by
  refine ⟨width - (toString n).length, ?_⟩
  rw [padded, String.toList_append, String.toList_ofList, Nat.toString_eq_repr, Nat.toList_repr]

theorem isDigit_of_mem_padded {width n : Nat} {c : Char} (member : c ∈ (padded width n).toList) :
    c.isDigit := by
  obtain ⟨zeros, written⟩ := toList_padded width n
  rw [written] at member
  rcases List.mem_append.mp member with zero | digit
  · rw [(List.mem_replicate.mp zero).2]
    decide
  · exact isDigit_of_mem_toDigits n c digit

theorem ofDigitChars_zeros (zeros : Nat) (cs : List Char) :
    Nat.ofDigitChars 10 (List.replicate zeros '0' ++ cs) 0 = Nat.ofDigitChars 10 cs 0 := by
  induction zeros with
  | zero => rfl
  | succ zeros ih =>
      rw [List.replicate_succ, List.cons_append, Nat.ofDigitChars_cons]
      exact ih

theorem natIn?_padded (width n : Nat) : natIn? 10 (padded width n).toList = some n := by
  obtain ⟨zeros, written⟩ := toList_padded width n
  have nonempty : (padded width n).toList ≠ [] := by
    rw [written]
    simp [Nat.toDigits_ne_nil]
  rw [natIn?_of_digits nonempty fun c => isDigit_of_mem_padded, written, ofDigitChars_zeros,
    Nat.ofDigitChars_toDigits (by decide) (by decide)]

end Padding

end SpecTest.Text
