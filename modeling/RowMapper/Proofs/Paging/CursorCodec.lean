import RowMapper.Binding
import RowMapper.Paging.Cursor
import RowMapper.Proofs.Json.Nesting
import RowMapper.Proofs.Json.Real
import RowMapper.Proofs.Text.Base64Url

/-!
# Cursors there and back

A cursor is the text of a value, and going on after it starts from what is read back.

* `Datum.isReal`, `Datum.isBoundless` — the values that a text may not hold as they are, and those
  that it does not hold at all;
* `Datum.IsSortKey` — the values that databases sort by without loss: integers and texts;
* `Cursor.decode_encode_of_not_real` — the cursor of any other value is read back as the value;
* `Cursor.exists_decode_encode` — the cursor of a finite number is read back as a number;
* `Cursor.decode_encode_of_boundless` — the cursor of any other number is that of no value, and is
  refused;
* `Datum.toDatum_toValue_of_isSortKey` — a sort key is bound as it was.
-/

namespace RowMapper

/-- Whether a magnitude is that of a number. -/
def Magnitude.isFinite : Magnitude → Bool
  | .finite _ _ => true
  | .infinite | .nan => false

theorem Magnitude.exists_of_isFinite {m : Magnitude} (h : m.isFinite = true) :
    ∃ significand exponent, m = .finite significand exponent := by
  cases m with
  | finite significand exponent => exact ⟨significand, exponent, rfl⟩
  | infinite => cases h
  | nan => cases h

/-- A floating-point number. -/
def Datum.isReal : Datum → Bool
  | .float _ | .double _ => true
  | _ => false

/-- A floating-point number that is infinite or undefined. -/
def Datum.isBoundless : Datum → Bool
  | .float (some x) => !x.magnitude.isFinite
  | .double (some x) => !x.magnitude.isFinite
  | _ => false

/-- An integer or a text. -/
def Datum.IsSortKey : Datum → Prop
  | .int32 (some _) | .int64 (some _) | .uint32 (some _) | .uint64 (some _) | .str (some _) => True
  | _ => False

/-- A sort key is not NULL. -/
theorem Datum.isNull_of_isSortKey {d : Datum} (h : d.IsSortKey) : d.isNull = false := by
  match d, h with
  | .int32 (some n), _ => rfl
  | .int64 (some n), _ => rfl
  | .uint32 (some n), _ => rfl
  | .uint64 (some n), _ => rfl
  | .str (some s), _ => rfl

/-- A sort key is no floating-point number. -/
theorem Datum.isReal_of_isSortKey {d : Datum} (h : d.IsSortKey) : d.isReal = false := by
  match d, h with
  | .int32 (some n), _ => rfl
  | .int64 (some n), _ => rfl
  | .uint32 (some n), _ => rfl
  | .uint64 (some n), _ => rfl
  | .str (some s), _ => rfl

/-! ### Integers in their ranges -/

namespace IntRange

theorem contains_int32 (n : Int32) : int32.contains n.toInt = true := by
  rw [contains_iff]
  exact ⟨n.le_toInt, Int.le_of_lt_add_one n.toInt_lt⟩

theorem contains_int64 (n : Int64) : int64.contains n.toInt = true := by
  rw [contains_iff]
  exact ⟨n.le_toInt, Int.le_of_lt_add_one n.toInt_lt⟩

theorem contains_uint32 (n : UInt32) : uint32.contains n.toNat = true := by
  rw [contains_iff]
  have hlt := n.toNat_lt
  simp only [uint32]
  omega

theorem contains_uint64 (n : UInt64) : uint64.contains n.toNat = true := by
  rw [contains_iff]
  have hlt := n.toNat_lt
  simp only [uint64]
  omega

theorem contains_int64_of_int32 {n : Int} (h : int32.contains n = true) :
    int64.contains n = true := by
  simp only [contains_iff, int32, int64] at h ⊢
  omega

theorem contains_uint64_of_uint32 {n : Int} (h : uint32.contains n = true) :
    uint64.contains n = true := by
  simp only [contains_iff, uint32, uint64] at h ⊢
  omega

end IntRange

/-! ### The JSON of a key -/

namespace Cursor

/-- The bytes of a text are the bytes of that text only. -/
theorem fromUTF8?_bytes (s : String) :
    String.fromUTF8? ⟨s.toByteArray.data.toList.toArray⟩ = some s := by
  rw [Array.toArray_toList, String.fromUTF8?, dif_pos s.isValidUTF8]
  rfl

/-- What is read from the JSON of a datum is what its cursor goes on after, unless it is NULL. -/
theorem decode_encode_of_read {d back : Datum} (hread : read (write d) = some back) :
    decode (encode d) =
      if back.isNull then .error (.invalidCursor .nullValue) else .ok back := by
  rw [decode, encode, String.toList_ofList, Base64Url.decode_encode]
  simp only [fromUTF8?_bytes, Option.bind_some, String.toList_ofList, hread]

theorem read_write_of_content {d : Datum} {value : Json}
    (hcontent : ∀ fuel, 2 * (writeContent d).length < fuel →
      Json.readValue fuel 126 (writeContent d ++ ['\x7d']) = some (value, ['\x7d'])) :
    read (write d) = readContent d.tag value := by
  rw [read, write, Json.parse?_field d.tag hcontent]

theorem endsNumeral_brace : EndsNumeral ['\x7d'] := Json.endsNumeral_cons (by decide) []

/-- The JSON of a datum is read as the value that its content was written for. -/
theorem read_write_of_whole {d : Datum} {value : Json} (htext : writeContent d = value.write)
    (hwhole : value.Whole) (hdepth : value.depth ≤ 126) :
    read (write d) = readContent d.tag value := by
  refine read_write_of_content fun fuel hfuel => ?_
  rw [htext] at hfuel ⊢
  rw [Json.readsBack_of_whole hwhole fuel 126 _ hfuel.le endsNumeral_brace, if_pos hdepth]

/-- The JSON of a datum with an integer is read as the integer. -/
theorem read_write_of_integer {d : Datum} {n : Int} (htext : writeContent d = Decimal.ofInt n)
    (h : IntRange.int64.contains n = true ∨ IntRange.uint64.contains n = true) :
    read (write d) = readContent d.tag (.number (.integer n)) :=
  read_write_of_whole htext (.integer h) (Nat.zero_le 126)

/-- The JSON of a datum with a text is read as the text. -/
theorem read_write_of_text {d : Datum} {s : String} (htext : writeContent d = Json.writeString s) :
    read (write d) = readContent d.tag (.string s) :=
  read_write_of_whole htext (.string s) (Nat.zero_le 126)

theorem readOption_integer {range : IntRange} {n : Int} (h : range.contains n = true) :
    readOption (readInt range) (.number (.integer n)) = some (some n) := by
  simp [readOption, readInt, h]

/-! ### Bytes -/

theorem contains_byte (b : UInt8) : IntRange.uint8.contains b.toNat = true := by
  rw [IntRange.contains_iff]
  have hlt := b.toNat_lt
  simp only [IntRange.uint8]
  omega

theorem readBytes_integers (bytes : List UInt8) :
    readBytes (.array (Json.integers (bytes.map fun b => (b.toNat : Int)))) = some bytes := by
  induction bytes with
  | nil => rfl
  | cons b bytes ih =>
      have hrest : (Json.integers (bytes.map fun b => (b.toNat : Int))).mapM (fun item =>
          (readInt .uint8 item).map fun n => UInt8.ofNat n.toNat) = some bytes := ih
      have hitem : readInt .uint8 (.number (.integer b.toNat)) = some (b.toNat : Int) := by
        rw [readInt, if_pos (contains_byte b)]
      rw [readBytes, List.map_cons, Json.integers, List.map_cons, List.mapM_cons, hitem]
      change Option.bind _ _ = _
      rw [Option.map_some, Option.bind_some, ← Json.integers, hrest]
      simp

/-- The JSON of bytes is read as the bytes. -/
theorem read_write_binary (bytes : List UInt8) :
    read (write (.binary (some bytes))) = some (.binary (some bytes)) := by
  have htext : writeContent (.binary (some bytes)) =
      Json.write (.array (Json.integers (bytes.map fun b => (b.toNat : Int)))) := by
    rw [writeContent, writeOption, Json.integers, List.map_map]
    rfl
  have hrange : ∀ n ∈ bytes.map fun b => (b.toNat : Int),
      IntRange.int64.contains n = true ∨ IntRange.uint64.contains n = true := by
    intro n hn
    obtain ⟨b, -, rfl⟩ := List.mem_map.mp hn
    have hbyte := contains_byte b
    simp only [IntRange.contains_iff, IntRange.uint8, IntRange.int64] at hbyte ⊢
    omega
  rw [read_write_of_whole htext (Json.whole_integers hrange) (by simp [Json.depth])]
  change (Datum.binary <$> readOption readBytes _ : Option Datum) = _
  rw [readOption, readBytes_integers]
  · rfl
  · intro h
    cases h

/-- **A cursor is read back as the value that it was written for**, unless that is a floating-point
number. -/
theorem decode_encode_of_not_real {d : Datum} (hnull : d.isNull = false)
    (hreal : d.isReal = false) : decode (encode d) = .ok d := by
  suffices hread : read (write d) = some d by
    rw [decode_encode_of_read hread, hnull]
    rfl
  match d, hnull, hreal with
  | .boolean (some b), _, _ =>
      have htext : writeContent (.boolean (some b)) = (Json.bool b).write := by cases b <;> rfl
      rw [read_write_of_whole htext (.bool b) (Nat.zero_le 126)]
      rfl
  | .int32 (some n), _, _ =>
      have hrange := IntRange.contains_int32 n
      rw [read_write_of_integer rfl (.inl (IntRange.contains_int64_of_int32 hrange))]
      simp [readContent, Datum.tag, readOption_integer hrange]
  | .int64 (some n), _, _ =>
      have hrange := IntRange.contains_int64 n
      rw [read_write_of_integer rfl (.inl hrange)]
      simp [readContent, Datum.tag, readOption_integer hrange]
  | .uint32 (some n), _, _ =>
      have hrange := IntRange.contains_uint32 n
      rw [read_write_of_integer rfl (.inr (IntRange.contains_uint64_of_uint32 hrange))]
      simp [readContent, Datum.tag, readOption_integer hrange]
  | .uint64 (some n), _, _ =>
      have hrange := IntRange.contains_uint64 n
      rw [read_write_of_integer rfl (.inr hrange)]
      simp [readContent, Datum.tag, readOption_integer hrange]
  | .binary (some bytes), _, _ => exact read_write_binary bytes
  | .str (some s), _, _ | .date (some s), _, _ | .time (some s), _, _ | .timestamp (some s), _, _ =>
      rw [read_write_of_text rfl]
      rfl

/-- The cursor of a sort key is read back as the key. -/
theorem decode_encode {d : Datum} (h : d.IsSortKey) : decode (encode d) = .ok d :=
  decode_encode_of_not_real (Datum.isNull_of_isSortKey h) (Datum.isReal_of_isSortKey h)

/-! ### Floating-point numbers -/

/-- What is written as a numeral is read as its number. -/
theorem read_write_of_number {d : Datum} {number : JsonNumber}
    (hnumber : ∀ (fuel depth : Nat) (rest : List Char), 0 < fuel → EndsNumeral rest →
      Json.readValue fuel depth (writeContent d ++ rest) = some (.number number, rest)) :
    read (write d) = readContent d.tag (.number number) :=
  read_write_of_content fun fuel hfuel =>
    hnumber fuel 126 _ (Nat.lt_of_le_of_lt (Nat.zero_le _) hfuel) endsNumeral_brace

/-- The cursor of a finite double precision number is read back as a number. -/
theorem exists_decode_encode_double {x : Binary64} (h : x.magnitude.isFinite = true) :
    ∃ y, decode (encode (.double (some x))) = .ok (.double (some y)) := by
  obtain ⟨significand, exponent, hfinite⟩ := Magnitude.exists_of_isFinite h
  obtain ⟨number, hnumber⟩ := Json.exists_readValue_double hfinite
  have htext : writeContent (.double (some x)) = (x.write Json.doubleStyle).toList := by
    simp only [writeContent, writeOption, hfinite]
  have hread := read_write_of_number (htext ▸ hnumber)
  cases number with
  | integer n => exact ⟨_, decode_encode_of_read hread⟩
  | double y => exact ⟨_, decode_encode_of_read hread⟩

/-- The cursor of a finite single precision number is read back as a number. -/
theorem exists_decode_encode_single {x : Binary32} (h : x.magnitude.isFinite = true) :
    ∃ y, decode (encode (.float (some x))) = .ok (.float (some y)) := by
  obtain ⟨significand, exponent, hfinite⟩ := Magnitude.exists_of_isFinite h
  obtain ⟨number, hnumber⟩ := Json.exists_readValue_single hfinite
  have htext : writeContent (.float (some x)) = (x.write Json.singleStyle).toList := by
    simp only [writeContent, writeOption, hfinite]
  have hread := read_write_of_number (htext ▸ hnumber)
  cases number with
  | integer n => exact ⟨_, decode_encode_of_read hread⟩
  | double y => exact ⟨_, decode_encode_of_read hread⟩

/-- **A cursor is read back as a value of the same kind**, if it is not that of an infinite or
undefined number. -/
theorem exists_decode_encode {d : Datum} (hnull : d.isNull = false)
    (hbounded : d.isBoundless = false) :
    ∃ back, decode (encode d) = .ok back ∧ back.tag = d.tag ∧ (d.isReal = false → back = d) := by
  cases hreal : d.isReal with
  | false => exact ⟨d, decode_encode_of_not_real hnull hreal, rfl, fun _ => rfl⟩
  | true =>
      match d, hnull, hbounded, hreal with
      | .double (some x), _, hbounded, _ =>
          have hfinite : x.magnitude.isFinite = true := by simpa [Datum.isBoundless] using hbounded
          obtain ⟨y, hy⟩ := exists_decode_encode_double hfinite
          exact ⟨_, hy, rfl, fun h => by cases h⟩
      | .float (some x), _, hbounded, _ =>
          have hfinite : x.magnitude.isFinite = true := by simpa [Datum.isBoundless] using hbounded
          obtain ⟨y, hy⟩ := exists_decode_encode_single hfinite
          exact ⟨_, hy, rfl, fun h => by cases h⟩

/-- Null is read as NULL, of whatever kind. -/
theorem exists_readContent_null (d : Datum) :
    ∃ back, readContent d.tag .null = some back ∧ back.isNull = true := by
  cases d <;> exact ⟨_, rfl, rfl⟩

/-- A cursor that holds null is refused. -/
theorem decode_encode_of_null {d : Datum} (htext : writeContent d = Json.write .null) :
    decode (encode d) = .error (.invalidCursor .nullValue) := by
  have hread : read (write d) = readContent d.tag .null :=
    read_write_of_whole htext .null (Nat.zero_le 126)
  obtain ⟨back, hback, hnull⟩ := exists_readContent_null d
  rw [decode_encode_of_read (hread.trans hback), if_pos hnull]

/-- **The cursor of an infinite or undefined number is refused**: what it holds is no value. -/
theorem decode_encode_of_boundless {d : Datum} (h : d.isBoundless = true) :
    decode (encode d) = .error (.invalidCursor .nullValue) := by
  refine decode_encode_of_null ?_
  match d, h with
  | .double (some x), h | .float (some x), h =>
      rw [writeContent, writeOption]
      cases hmagnitude : x.magnitude with
      | finite m e => simp [Datum.isBoundless, hmagnitude, Magnitude.isFinite] at h
      | infinite => rfl
      | nan => rfl

end Cursor

/-- A sort key is bound as it was read. -/
theorem Datum.toDatum_toValue_of_isSortKey {d : Datum} (h : d.IsSortKey) :
    d.toValue.toDatum = .ok d := by
  match d, h with
  | .int32 (some n), _ => rfl
  | .int64 (some n), _ => rfl
  | .uint32 (some n), _ => rfl
  | .uint64 (some n), _ => rfl
  | .str (some s), _ => rfl

end RowMapper
