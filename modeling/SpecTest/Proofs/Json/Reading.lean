import SpecTest.Json.Reader
import SpecTest.Json.Writer
import SpecTest.Proofs.Text.Digits
import SpecTest.Proofs.Text.Splitting

/-!
The text of a JSON value reads back as the value.

A reader stops behind what it reads, so each statement leaves open what comes next.  Only a number
has to be told where it ends.
-/

namespace SpecTest.Json

open SpecTest.Text

variable {fuel : Nat} {rest : List Char}

section Texts

theorem readCode_append {digits : List Char} {n : Nat} (four : digits.length = 4)
    (number : natIn? 16 digits = some n) (rest : List Char) :
    readCode (digits ++ rest) = some (n, rest) := by
  rw [readCode, List.take_left' four, List.drop_left' four, if_pos four, number, Option.map_some]

theorem natIn?_controlDigits {c : Char} (control : c.toNat < 0x20) :
    natIn? 16 (controlDigits c) = some c.toNat := by
  have all : ∀ n < 0x20, natIn? 16 ['0', '0', Nat.digitChar (n / 16), Nat.digitChar (n % 16)] = some n := by
    decide
  exact all c.toNat control

theorem readEscape_controlDigits {c : Char} (control : c.toNat < 0x20) (rest : List Char) :
    readEscape ('u' :: (controlDigits c ++ rest)) = some (.char c, rest) := by
  have noHalf : charOfCode? c.toNat = some c := by
    rw [charOfCode?, if_pos (.inl (by omega)), Char.ofNat_toNat]
  have code := readCode_append rfl (natIn?_controlDigits control) rest
  simp [readEscape, code, noHalf]

theorem readUnits_escape {cs : List Char} {unit : TextUnit} (escape : readEscape cs = some (unit, rest)) :
    readUnits (fuel + 1) ('\\' :: cs) =
      (readUnits fuel rest).map fun (units, left) => (unit :: units, left) := by
  simp only [readUnits, escape, Option.bind_eq_bind, Option.bind_some]
  cases readUnits fuel rest <;> rfl

theorem readUnits_charText (c : Char) (fuel : Nat) (rest : List Char) :
    readUnits (fuel + 1) (charText c ++ rest) =
      (readUnits fuel rest).map fun (units, left) => (.char c :: units, left) := by
  unfold charText
  split
  case h_8 notQuote notBackslash _ _ _ _ _ =>
    split
    case isTrue control => exact readUnits_escape (readEscape_controlDigits control rest)
    case isFalse noControl =>
      rw [List.singleton_append, readUnits]
      · rw [if_neg noControl]
      · exact notQuote
      · exact notBackslash
  all_goals exact readUnits_escape rfl

theorem length_charText_pos (c : Char) : 0 < (charText c).length := by
  unfold charText
  repeat' split
  all_goals simp

theorem readUnits_chars {cs : List Char} (enough : (cs.flatMap charText).length < fuel) (rest : List Char) :
    readUnits fuel (cs.flatMap charText ++ '"' :: rest) = some (cs.map .char, rest) := by
  induction cs generalizing fuel with
  | nil =>
      obtain ⟨fuel, rfl⟩ := Nat.exists_eq_succ_of_ne_zero (Nat.ne_of_gt enough)
      rfl
  | cons c cs ih =>
      obtain ⟨fuel, rfl⟩ := Nat.exists_eq_succ_of_ne_zero (Nat.ne_of_gt (Nat.zero_lt_of_lt enough))
      have less : (cs.flatMap charText).length < fuel := by
        have someChar := length_charText_pos c
        simp only [List.flatMap_cons, List.length_append] at enough
        omega
      rw [List.flatMap_cons, List.append_assoc, readUnits_charText, ih less]
      rfl

theorem joinUnits_chars (cs : List Char) : joinUnits (cs.map .char) = some cs := by
  induction cs with
  | nil => rfl
  | cons c cs ih => rw [List.map_cons, joinUnits, ih, Option.map_some]

theorem readText_bodyText (t : Option String) (rest : List Char) :
    readText (bodyText t ++ '"' :: rest) = some (t, rest) := by
  cases t with
  | none => rfl
  | some t =>
      have enough : (t.toList.flatMap charText).length <
          (t.toList.flatMap charText ++ '"' :: rest).length + 1 := by
        simp only [List.length_append]
        omega
      simp only [readText, bodyText, readUnits_chars enough, joinUnits_chars, Option.map_some,
        String.ofList_toList]

end Texts

/-- A value ends with the text, or where the next one or the end of what it is in is announced. -/
def Ends (rest : List Char) : Prop := ∀ c ∈ rest.head?, c = ',' ∨ c = ']' ∨ c = '\x7d'

section Numbers

theorem Ends.stops (ends : Ends rest) : ∀ c ∈ rest.head?, isDecimal c = false := by
  intro c front
  rcases ends c front with rfl | rfl | rfl <;> rfl

theorem readDigits_toDigits (n : Nat) (stops : ∀ c ∈ rest.head?, isDecimal c = false) :
    readDigits (Nat.toDigits 10 n ++ rest) = some (Nat.toDigits 10 n, rest) := by
  have digits := (span_append (p := isDecimal) (isDigit_of_mem_toDigits n) stops).1
  simp [readDigits, digits, Nat.toDigits_ne_nil]

theorem readWhole_toDigits (n : Nat) (stops : ∀ c ∈ rest.head?, isDecimal c = false) :
    readWhole (Nat.toDigits 10 n ++ rest) = some (Nat.toDigits 10 n, rest) := by
  have alone : ¬((Nat.toDigits 10 n).head? = some '0' ∧ 1 < (Nat.toDigits 10 n).length) := by
    rintro ⟨zero, longer⟩
    rcases Nat.eq_zero_or_pos n with rfl | positive
    · exact absurd longer (by decide)
    · exact head?_toDigits positive zero
  simp [readWhole, readDigits_toDigits n stops, alone]

theorem readFraction_of_ends (ends : Ends rest) : readFraction rest = some (none, rest) := by
  cases rest with
  | nil => rfl
  | cons c rest => rcases ends c rfl with rfl | rfl | rfl <;> rfl

theorem readExponent_of_ends (ends : Ends rest) : readExponent rest = some (none, rest) := by
  cases rest with
  | nil => rfl
  | cons c rest => rcases ends c rfl with rfl | rfl | rfl <;> rfl

theorem toDigits_front (n : Nat) : ∃ c digits, Nat.toDigits 10 n = c :: digits ∧ c.isDigit := by
  obtain ⟨c, digits, written⟩ := List.exists_cons_of_ne_nil (Nat.toDigits_ne_nil (b := 10) (n := n))
  exact ⟨c, digits, written, isDigit_of_mem_toDigits n c (by simp [written])⟩

theorem ne_of_isDigit {c d : Char} (digit : c.isDigit) (other : d.isDigit = false) : c ≠ d := by
  rintro rfl
  simp [other] at digit

theorem readExponent_exponentText (e : Int) (ends : Ends rest) :
    readExponent ('e' :: (exponentText e ++ rest)) = some (some e, rest) := by
  cases e with
  | ofNat e =>
      have digits := readDigits_toDigits e ends.stops
      have number := natIn?_toDigits e
      obtain ⟨c, front, written, digit⟩ := toDigits_front e
      have noPlus := ne_of_isDigit (d := '+') digit rfl
      have noMinus := ne_of_isDigit (d := '-') digit rfl
      simp only [written, List.cons_append] at digits number
      simp [readExponent, exponentText, written, noPlus, noMinus, digits, number]
  | negSucc e =>
      simp [readExponent, exponentText, readDigits_toDigits (e + 1) ends.stops, natIn?_toDigits,
        Int.negSucc_eq]

theorem signed_append (negative : Bool) (digits rest : List Char) :
    signed negative digits ++ rest = signed negative (digits ++ rest) := by
  cases negative <;> rfl

/-- A sign and digits are read with the exponent behind them, if there is one. -/
theorem readNumber_signed (negative : Bool) (n : Nat) {more left : List Char} {exponent : Option Int}
    (stops : ∀ c ∈ more.head?, isDecimal c = false) (noFraction : readFraction more = some (none, more))
    (readsExponent : readExponent more = some (exponent, left)) :
    readNumber (signed negative (Nat.toDigits 10 n ++ more)) =
      some (exponent.elim (.whole negative n) (.real negative n), left) := by
  have whole := readWhole_toDigits n stops
  have number := natIn?_toDigits n
  obtain ⟨c, digits, written, digit⟩ := toDigits_front n
  have noSign := ne_of_isDigit (d := '-') digit rfl
  simp only [written, List.cons_append] at whole number ⊢
  cases negative <;> cases exponent <;>
    simp [readNumber, signed, noSign, whole, noFraction, readsExponent, number]

theorem readNumber_whole (negative : Bool) (size : Nat) (ends : Ends rest) :
    readNumber (signed negative (Nat.toDigits 10 size ++ rest)) = some (.whole negative size, rest) :=
  readNumber_signed negative size ends.stops (readFraction_of_ends ends) (readExponent_of_ends ends)

theorem readNumber_real (negative : Bool) (mantissa : Nat) (exponent : Int) (ends : Ends rest) :
    readNumber (signed negative (Nat.toDigits 10 mantissa ++ 'e' :: (exponentText exponent ++ rest))) =
      some (.real negative mantissa exponent, rest) :=
  readNumber_signed negative mantissa (by simp [isDecimal]) rfl (readExponent_exponentText exponent ends)

end Numbers

section Values

theorem skipBlanks_cons {c : Char} (visible : isBlank c = false) (cs : List Char) :
    skipBlanks (c :: cs) = c :: cs := by
  simp [skipBlanks, visible]

theorem isBlank_of_isDigit {c : Char} (digit : c.isDigit) : isBlank c = false := by
  have other : ∀ d, d.isDigit = false → (c == d) = false := fun d noDigit =>
    beq_eq_false_iff_ne.mpr (ne_of_isDigit digit noDigit)
  simp [isBlank, other]

/-- What begins with a sign or a digit is read as a number. -/
theorem readValue_number {c : Char} (sign : c = '-' ∨ c.isDigit) (cs : List Char) :
    readValue (fuel + 1) (c :: cs) = readNumber (c :: cs) := by
  have visible : isBlank c = false := sign.elim (fun minus => minus ▸ rfl) isBlank_of_isDigit
  rw [readValue, skipBlanks_cons visible]
  split
  case h_8 => rfl
  all_goals rcases sign with rfl | digit <;> simp_all

theorem signed_front (negative : Bool) (n : Nat) (more : List Char) :
    ∃ c cs, signed negative (Nat.toDigits 10 n ++ more) = c :: cs ∧ (c = '-' ∨ c.isDigit) := by
  obtain ⟨c, digits, written, digit⟩ := toDigits_front n
  cases negative
  · exact ⟨c, digits ++ more, by simp [signed, written], .inr digit⟩
  · exact ⟨'-', _, rfl, .inl rfl⟩

/-- The text of a value begins with a character that is no blank and ends no array. -/
theorem chars_front (v : Value) : ∃ c cs, v.chars = c :: cs ∧ isBlank c = false ∧ c ≠ ']' := by
  have number : ∀ {c : Char}, c = '-' ∨ c.isDigit → isBlank c = false ∧ c ≠ ']' := by
    rintro c (rfl | digit)
    · exact ⟨rfl, by decide⟩
    · exact ⟨isBlank_of_isDigit digit, ne_of_isDigit digit rfl⟩
  cases v with
  | bool b => cases b <;> exact ⟨_, _, by rw [Value.chars], rfl, by decide⟩
  | whole negative size =>
      obtain ⟨c, cs, written, sign⟩ := signed_front negative size []
      rw [List.append_nil] at written
      exact ⟨c, cs, by rw [Value.chars, written], number sign⟩
  | real negative mantissa exponent =>
      obtain ⟨c, cs, written, sign⟩ := signed_front negative mantissa ('e' :: exponentText exponent)
      exact ⟨c, cs, by rw [Value.chars, written], number sign⟩
  | _ => exact ⟨_, _, by rw [Value.chars]; try rw [quoted], rfl, by decide⟩

theorem itemChars_front (v : Value) (items : List Value) :
    ∃ c cs, itemChars (v :: items) = c :: cs ∧ isBlank c = false ∧ c ≠ ']' := by
  obtain ⟨c, cs, written, visible, notEnd⟩ := chars_front v
  cases items <;> exact ⟨c, _, by rw [itemChars, written, List.cons_append], visible, notEnd⟩

theorem fieldChars_front (f : Option String × Value) (fields : List (Option String × Value)) :
    ∃ cs, fieldChars (f :: fields) = '"' :: cs := by
  cases fields <;> exact ⟨_, by rw [fieldChars, quoted, List.cons_append]⟩

variable {v : Value} {items : List Value} {fields : List (Option String × Value)} {cs left : List Char}

theorem readItems_last (read : readValue fuel cs = some (v, ']' :: rest)) :
    readItems (fuel + 1) cs = some ([v], rest) := by
  simp [readItems, read, skipBlanks_cons, isBlank]

theorem readItems_next (read : readValue fuel cs = some (v, ',' :: left))
    (others : readItems fuel left = some (items, rest)) :
    readItems (fuel + 1) cs = some (v :: items, rest) := by
  simp [readItems, read, skipBlanks_cons, isBlank, others]

theorem readFields_last (name : Option String) (read : readValue fuel cs = some (v, '\x7d' :: rest)) :
    readFields (fuel + 1) (quoted name ++ ':' :: cs) = some ([(name, v)], rest) := by
  simp [readFields, quoted, skipBlanks_cons, isBlank, readText_bodyText, read]

theorem readFields_next (name : Option String) (read : readValue fuel cs = some (v, ',' :: left))
    (others : readFields fuel left = some (fields, rest)) :
    readFields (fuel + 1) (quoted name ++ ':' :: cs) = some ((name, v) :: fields, rest) := by
  simp [readFields, quoted, skipBlanks_cons, isBlank, readText_bodyText, read, others]

theorem readValue_items (read : readItems fuel (itemChars (v :: items) ++ rest) = some (v :: items, rest)) :
    readValue (fuel + 1) ('[' :: (itemChars (v :: items) ++ rest)) = some (.array (v :: items), rest) := by
  obtain ⟨c, cs, written, visible, notEnd⟩ := itemChars_front v items
  rw [written, List.cons_append] at read ⊢
  simp [readValue, skipBlanks_cons (c := '[') rfl, skipBlanks_cons visible, notEnd, read]

theorem readValue_fields {f : Option String × Value}
    (read : readFields fuel (fieldChars (f :: fields) ++ rest) = some (f :: fields, rest)) :
    readValue (fuel + 1) ('\x7b' :: (fieldChars (f :: fields) ++ rest)) =
      some (.object (f :: fields), rest) := by
  obtain ⟨cs, written⟩ := fieldChars_front f fields
  rw [written, List.cons_append] at read ⊢
  simp [readValue, skipBlanks_cons, isBlank, read]

-- By recursion over the value.  Whoever reads on passes one less of the fuel and has at least one character
-- less to read, so as much fuel as there are characters suffices.
mutual

/-- The text of a value reads back as the value, and what stands behind it is left. -/
theorem readValue_chars (v : Value) {fuel : Nat} {rest : List Char} (enough : v.chars.length < fuel)
    (ends : Ends rest) : readValue fuel (v.chars ++ rest) = some (v, rest) := by
  obtain ⟨fuel, rfl⟩ := Nat.exists_eq_succ_of_ne_zero (Nat.ne_of_gt (Nat.zero_lt_of_lt enough))
  match v with
  | .null => simp [Value.chars, readValue, skipBlanks_cons, isBlank]
  | .bool true => simp [Value.chars, readValue, skipBlanks_cons, isBlank]
  | .bool false => simp [Value.chars, readValue, skipBlanks_cons, isBlank]
  | .whole negative size =>
      obtain ⟨c, cs, written, sign⟩ := signed_front negative size rest
      rw [Value.chars, signed_append, written, readValue_number sign, ← written,
        readNumber_whole negative size ends]
  | .real negative mantissa exponent =>
      obtain ⟨c, cs, written, sign⟩ := signed_front negative mantissa ('e' :: (exponentText exponent ++ rest))
      rw [Value.chars, signed_append, List.append_assoc, List.cons_append, written, readValue_number sign,
        ← written, readNumber_real negative mantissa exponent ends]
  | .string t => simp [Value.chars, quoted, readValue, skipBlanks_cons, isBlank, readText_bodyText]
  | .array [] => simp [Value.chars, itemChars, readValue, skipBlanks_cons, isBlank]
  | .array (v :: items) =>
      rw [Value.chars, List.length_cons] at enough
      rw [Value.chars, List.cons_append]
      exact readValue_items (readItems_chars (v :: items) (List.cons_ne_nil _ _) (by omega))
  | .object [] => simp [Value.chars, fieldChars, readValue, skipBlanks_cons, isBlank]
  | .object (f :: fields) =>
      rw [Value.chars, List.length_cons] at enough
      rw [Value.chars, List.cons_append]
      exact readValue_fields (readFields_chars (f :: fields) (List.cons_ne_nil _ _) (by omega))

theorem readItems_chars (items : List Value) {fuel : Nat} {rest : List Char} (someItem : items ≠ [])
    (enough : (itemChars items).length < fuel) :
    readItems fuel (itemChars items ++ rest) = some (items, rest) := by
  obtain ⟨fuel, rfl⟩ := Nat.exists_eq_succ_of_ne_zero (Nat.ne_of_gt (Nat.zero_lt_of_lt enough))
  match items with
  | [] => contradiction
  | [v] =>
      simp only [itemChars, List.length_append, List.length_singleton, List.append_assoc,
        List.singleton_append] at enough ⊢
      exact readItems_last (readValue_chars v (by omega) (by simp [Ends]))
  | v :: next :: items =>
      simp only [itemChars, List.length_append, List.length_cons, List.append_assoc,
        List.cons_append] at enough ⊢
      exact readItems_next (readValue_chars v (by omega) (by simp [Ends]))
        (readItems_chars (next :: items) (List.cons_ne_nil _ _) (by omega))

theorem readFields_chars (fields : List (Option String × Value)) {fuel : Nat} {rest : List Char}
    (someField : fields ≠ []) (enough : (fieldChars fields).length < fuel) :
    readFields fuel (fieldChars fields ++ rest) = some (fields, rest) := by
  obtain ⟨fuel, rfl⟩ := Nat.exists_eq_succ_of_ne_zero (Nat.ne_of_gt (Nat.zero_lt_of_lt enough))
  match fields with
  | [] => contradiction
  | [(name, v)] =>
      simp only [fieldChars, List.length_append, List.length_cons, List.append_assoc, List.cons_append,
        List.nil_append] at enough ⊢
      exact readFields_last name (readValue_chars v (by omega) (by simp [Ends]))
  | (name, v) :: next :: fields =>
      simp only [fieldChars, List.length_append, List.length_cons, List.append_assoc,
        List.cons_append] at enough ⊢
      exact readFields_next name (readValue_chars v (by omega) (by simp [Ends]))
        (readFields_chars (next :: fields) (List.cons_ne_nil _ _) (by omega))

end

theorem readValue_blanks {blanks : List Char} (blank : ∀ c ∈ blanks, isBlank c) (cs : List Char) :
    readValue fuel (blanks ++ cs) = readValue fuel cs := by
  cases fuel with
  | zero => rfl
  | succ fuel => rw [readValue, readValue, skipBlanks, List.dropWhile_append_of_pos blank, ← skipBlanks]

theorem parse?_blanks_text (v : Value) {blanks : List Char} (blank : ∀ c ∈ blanks, isBlank c) :
    parse? (String.ofList (blanks ++ v.chars)) = some v := by
  have enough : v.chars.length < (blanks ++ v.chars).length + 1 := by
    rw [List.length_append]
    omega
  have read := readValue_chars v enough (show Ends [] from nofun)
  rw [List.append_nil, ← readValue_blanks blank] at read
  rw [parse?, String.toList_ofList, read]
  rfl

theorem parse?_text (v : Value) : parse? v.text = some v := by
  have parsed := parse?_blanks_text v (show ∀ c ∈ [], isBlank c by simp)
  rwa [List.nil_append] at parsed

end Values

end SpecTest.Json
