import SpecTest.Document.Decode
import SpecTest.Document.Encode
import SpecTest.Json.Format
import SpecTest.Proofs.Data.Keys

/-!
The parts of a JSON document read back as what they encode: texts, numbers, lists, what may be
missing, and the fields of a record.
-/

namespace SpecTest.Document

open SpecTest.Json SpecTest.Data

variable {α : Type} {depth room : Nat} {read : Nested → Option α} {encode : α → Value}

/-- Everything reads back from its encoding, wherever values may still be nested to the depth. -/
def ReadsBack (depth : Nat) (read : Nested → Option α) (encode : α → Value) : Prop :=
  ∀ a room, depth ≤ room → read ⟨room, encode a⟩ = some a

section Atoms

@[simp] theorem text_ofString (room : Nat) (s : String) : Json.format.text ⟨room, .ofString s⟩ = some s := rfl

theorem text_json : ReadsBack 0 Json.format.text Value.ofString := fun s room _ => text_ofString room s

@[simp] theorem bool_bool (room : Nat) (b : Bool) : Json.format.bool ⟨room, .bool b⟩ = some b := rfl

theorem unsigned_ofNat {bits n : Nat} (inRange : n < 1 <<< bits) (room : Nat) :
    Json.format.unsigned bits ⟨room, .ofNat n⟩ = some n :=
  if_pos inRange

theorem signed_ofInt {bits : Nat} {n : Int} (low : -((1 <<< (bits - 1) : Nat) : Int) ≤ n)
    (high : n < (1 <<< (bits - 1) : Nat)) (room : Nat) :
    Json.format.signed bits ⟨room, .ofInt n⟩ = some n := by
  generalize limit : 1 <<< (bits - 1) = size at low high
  by_cases negative : n < 0
  · have inRange : 0 < n.natAbs ∧ n.natAbs ≤ size := by omega
    have same : -(n.natAbs : Int) = n := by omega
    rw [Value.ofInt, decide_eq_true negative]
    simp only [Json.format, Nested.signed?, limit, if_pos inRange, same]
  · have inRange : n.natAbs < size := by omega
    have same : (n.natAbs : Int) = n := by omega
    rw [Value.ofInt, decide_eq_false negative]
    simp only [Json.format, Nested.signed?, limit, if_pos inRange, same]

theorem readPath_json : ReadsBack 0 (readPath Json.format) Path.json := fun _ _ _ => rfl

theorem readUInt64_ofNat : ReadsBack 0 (readUInt64 Json.format) fun n : UInt64 => .ofNat n.toNat := by
  intro n room _
  have number : Json.format.unsigned 64 ⟨room, .ofNat n.toNat⟩ = some n.toNat := unsigned_ofNat n.toNat_lt room
  simp [readUInt64, number]

theorem contentUnsigned_ofNat (n : UInt32) (room : Nat) :
    (Json.format.contentUnsigned 32 ⟨room, .ofNat n.toNat⟩).map Nat.toUInt32 = some n := by
  have content : Json.format.contentUnsigned 32 ⟨room, .ofNat n.toNat⟩ = some n.toNat :=
    unsigned_ofNat n.toNat_lt room
  simp [content]

theorem readCode_ofInt : ReadsBack 0 (readCode Json.format) fun c : Int64 => .ofInt c.toInt := by
  intro c room _
  have code : Json.format.signed 64 ⟨room, .ofInt c.toInt⟩ = some c.toInt :=
    signed_ofInt c.le_toInt c.toInt_lt room
  simp [readCode, code]

end Atoms

section Collections

theorem ReadsBack.mapM (back : ReadsBack depth read encode) (enough : depth ≤ room) (items : List α) :
    (items.map fun a => (⟨room, encode a⟩ : Nested)).mapM read = some items := by
  induction items with
  | nil => rfl
  | cons a rest ih => simp [back a room enough, ih]

theorem ReadsBack.list (back : ReadsBack depth read encode) :
    ReadsBack (depth + 1) (Json.format.list read) (Value.ofList encode) := by
  intro items room enough
  obtain ⟨room, rfl⟩ := Nat.exists_eq_add_of_le' (Nat.le_of_add_left_le enough)
  have found : Json.format.items ⟨room + 1, .ofList encode items⟩ =
      some (items.map fun a => ⟨room, encode a⟩) := by
    simp [Json.format, Nested.items?, Value.ofList, Nested.inner, Function.comp_def]
  rw [Format.list, found]
  exact back.mapM (Nat.le_of_add_le_add_right enough) items

/-- What may be missing is told apart from what is there where nothing is encoded as missing. -/
theorem ReadsBack.option (back : ReadsBack depth read encode) (present : ∀ a, encode a ≠ .null) :
    ReadsBack depth (Json.format.option read) (Value.ofOption encode) := by
  intro a room enough
  cases a with
  | none => rfl
  | some a =>
      have found : Json.format.optional ⟨room, encode a⟩ = some (some ⟨room, encode a⟩) := by
        have there := present a
        simp only [Json.format, Nested.optional]
      rw [Value.ofOption, Format.option, found]
      simp [back a room enough]

theorem readCodeSet_json : ReadsBack 1 (readCodeSet Json.format) CodeSet.json := by
  intro s room enough
  have members := readCode_ofInt.list s.toList room enough
  rw [readCodeSet, CodeSet.json, members, Option.map_eq_map, Option.map_some, Ascending.ofList_toList]

end Collections

section Records

variable {names : List String} {fields : List (String × Value)}

theorem entries_ofFields (room : Nat) (fields : List (String × Value)) :
    Json.format.entries ⟨room + 1, .ofFields fields⟩ = some (fields.map fun f => (f.1, ⟨room, f.2⟩)) := by
  have found : (fields.map fun f => (some f.1, f.2)).mapM
      (fun f : Option String × Value => f.1.map fun name => (name, (⟨room, f.2⟩ : Nested))) =
      some (fields.map fun f => (f.1, ⟨room, f.2⟩)) := by
    induction fields with
    | nil => rfl
    | cons f rest ih => simp [ih]
  simpa [Json.format, Nested.entries?, Value.ofFields, Nested.namedFields?, Nested.inner] using found

theorem pickFields_all {found : List (String × Nested)} (named : found.map (·.1) = names)
    (distinct : names.Nodup) : pickFields names found = some found := by
  have kept : found.filter (fun e => names.contains e.1) = found := by
    refine List.filter_eq_self.mpr fun e member => ?_
    rw [List.contains_iff_mem, ← named]
    exact List.mem_map_of_mem member
  rw [pickFields, kept, named, if_pos distinct]

/-- A record that is written with its names has every field in its place. -/
@[simp] theorem fields_ofFields (written : fields.map (·.1) = names) (distinct : names.Nodup) (room : Nat) :
    Json.format.fields names ⟨room + 1, .ofFields fields⟩ =
      some ⟨false, fields.map fun f => (f.1, ⟨room, f.2⟩)⟩ := by
  have entries := entries_ofFields room fields
  have named : (fields.map fun f => (f.1, (⟨room, f.2⟩ : Nested))).map (·.1) = names := by
    simpa [Function.comp_def] using written
  have picked := pickFields_all named distinct
  simp only [Json.format] at entries ⊢
  simp only [Nested.fields?, Value.ofFields] at entries ⊢
  simp [entries, picked]

variable {positional : Bool} {name front : String} {v : Nested} {found : List (String × Nested)}

@[simp] theorem required_front :
    Json.format.required ⟨positional, (name, v) :: found⟩ name read = read v := by
  simp [Format.required]

@[simp] theorem required_behind (other : name ≠ front) :
    Json.format.required ⟨positional, (front, v) :: found⟩ name read =
      Json.format.required ⟨positional, found⟩ name read := by
  simp [Format.required, List.lookup_cons, beq_eq_false_iff_ne.mpr other]

@[simp] theorem given?_front :
    (Fields.mk positional ((name, v) :: found)).given? name read = (read v).map some := by
  simp [Fields.given?]

@[simp] theorem given?_behind (other : name ≠ front) :
    (Fields.mk positional ((front, v) :: found)).given? name read =
      (Fields.mk positional found).given? name read := by
  simp [Fields.given?, List.lookup_cons, beq_eq_false_iff_ne.mpr other]

end Records

end SpecTest.Document
