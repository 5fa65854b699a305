import RowMapper.Proofs.Entity.Integers
import RowMapper.Proofs.Outcome
import RowMapper.Sqlite.Stored

/-!
# Contents come back from their storage classes

SQLite keeps data of twelve kinds in five classes, so what comes back of a datum may be of another
kind than the datum.  The kind is lost and the content is not: a truth value comes back as the
integer 0 or 1, an integer of any width as one of 64 bits, a date or a time as its text, and the
lack of a value of any type as a NULL among the texts.  Each type knows how to fetch its values
from these.

* `ScalarType.kept` — the types whose values SQLite keeps as integers, texts or blobs;
* `Stored.returned` — what comes back of a datum, and `Stored.Native`, the data that come back as
  they were;
* `Stored.Keeps` — a datum that is stored as no floating-point number, and what comes back of it;
* `Stored.ofDatum_eq_error_iff` — the one datum that has no place in any class;
* `exists_keeps_content` — the content of a property is bound as a datum that is kept, and fetched
  from what comes back.

### What is left out

Floating-point numbers have a class of their own, JSON values are nested too deep or not, and points
in time have a year of four digits or not; the texts of the latter two are kept like all others.
-/

namespace RowMapper

/-! ### Types that are kept -/

/-- The types of values that are kept as integers, texts or blobs. -/
def ScalarType.kept : List ScalarType :=
  [bool, int32, int64, uint32, uint64, text, bytes, date, time, timestamp]

/-- An integer is in the range of its type. -/
theorem Scalar.exists_range {s : Scalar} {n : Int} (h : s.integer? = some n) :
    ∃ range, s.type.range? = some range ∧ range.contains n = true := by
  cases s <;> cases h
  · exact ⟨_, rfl, IntRange.contains_int32 _⟩
  · exact ⟨_, rfl, IntRange.contains_int64 _⟩
  · exact ⟨_, rfl, IntRange.contains_uint32 _⟩
  · exact ⟨_, rfl, IntRange.contains_uint64 _⟩

/-- An integer is fetched from every datum that holds its number. -/
theorem Scalar.fetch_of_holdsInteger {s : Scalar} {n : Int} {d : Datum}
    (hs : s.integer? = some n) (hd : d.HoldsInteger n) : s.type.fetch d = .ok s := by
  obtain ⟨range, hrange, hn⟩ := exists_range hs
  obtain ⟨t, hfetch, ht⟩ := ScalarType.exists_fetch hrange hd
  rw [if_pos hn] at hfetch
  obtain ⟨htype, hinteger⟩ := ht hn
  rw [hfetch, eq_of_integer? htype hinteger hs]

namespace Sqlite

namespace Stored

/-! ### Data through the classes -/

variable {d later : Datum}

/-- Whether the value is a floating-point number. -/
def isReal : Stored → Bool
  | real _ => true
  | _ => false

/-- What comes back of a datum. -/
def returned (d : Datum) : Except Fault Datum := do (← ofDatum d).toDatum

/-- A datum has a place in a class other than that of floating-point numbers, and comes back from
there. -/
def Keeps (d later : Datum) : Prop :=
  ∃ stored, ofDatum d = .ok stored ∧ stored.isReal = false ∧ stored.toDatum = .ok later

/-- The data that come back as they are: of each class, those of the one kind that belongs to it. -/
inductive Native : Datum → Prop where
  | integer (n : Int64) : Native (.int64 (some n))
  | real {x : Binary64} (h : x.isNaN = false) : Native (.double (some x))
  | text (s : Option String) : Native (.str s)
  | blob (bytes : List UInt8) : Native (.binary (some bytes))

theorem toDatum_ofText (s : String) : (ofText s).toDatum = .ok (.str (some s)) := by
  rw [ofText, toDatum, Cursor.fromUTF8?_bytes]

theorem Keeps.returned_eq (h : Keeps d later) : returned d = .ok later := by
  obtain ⟨stored, hstored, -, hlater⟩ := h
  rw [returned, hstored]
  exact hlater

/-- A text comes back as a text, whatever kind it was of. -/
theorem keeps_of_text {s : String} (h : ofDatum d = .ok (ofText s)) : Keeps d (.str (some s)) :=
  ⟨ofText s, h, rfl, toDatum_ofText s⟩

/-- Only an integer without a sign may have no place, and it has none beyond 64 bits with a sign. -/
theorem ofDatum_eq_error_iff {fault : Fault} :
    ofDatum d = .error fault ↔
      ∃ n : UInt64, d = .uint64 (some n) ∧ 2 ^ 63 ≤ n.toNat ∧ fault = .outOfRange n := by
  constructor
  · intro h
    match d, h with
    | .uint64 (some n), h =>
        by_cases hn : IntRange.int64.contains n.toNat = true
        · rw [ofDatum, if_pos hn] at h
          cases h
        · rw [ofDatum, if_neg hn] at h
          rw [IntRange.contains_iff] at hn
          simp only [IntRange.int64] at hn
          exact ⟨n, rfl, by omega, (Except.error.inj h).symm⟩
  · rintro ⟨n, rfl, hn, rfl⟩
    rw [ofDatum, if_neg]
    rw [IntRange.contains_iff]
    simp only [IntRange.int64]
    omega

/-- An integer with room in 64 bits with a sign is kept, whatever kind it is of. -/
theorem exists_ofDatum_of_holdsInteger {n : Int} (hd : d.HoldsInteger n)
    (hn : IntRange.int64.contains n = true) :
    ∃ k : Int64, ofDatum d = .ok (.integer k) ∧ k.toInt = n := by
  have hbounds := (IntRange.contains_iff _ _).mp hn
  simp only [IntRange.int64] at hbounds
  cases hd with
  | int32 v => exact ⟨v.toInt64, rfl, Int32.toInt_toInt64 v⟩
  | int64 v => exact ⟨v, rfl, rfl⟩
  | uint32 v => exact ⟨.ofNat v.toNat, rfl, Int64.toInt_ofNat_of_lt (by omega)⟩
  | uint64 v =>
      refine ⟨.ofNat v.toNat, ?_, Int64.toInt_ofNat_of_lt (by omega)⟩
      rw [ofDatum, if_pos hn]
  | no => exact ⟨0, rfl, rfl⟩
  | yes => exact ⟨1, rfl, rfl⟩

/-- It comes back as an integer of 64 bits with the same number. -/
theorem exists_keeps_of_holdsInteger {n : Int} (hd : d.HoldsInteger n)
    (hn : IntRange.int64.contains n = true) :
    ∃ later, Keeps d later ∧ later.isNull = false ∧ later.HoldsInteger n := by
  obtain ⟨k, hk, rfl⟩ := exists_ofDatum_of_holdsInteger hd hn
  exact ⟨.int64 (some k), ⟨.integer k, hk, rfl, rfl⟩, rfl, .int64 k⟩

/-- The lack of a value is stored as NULL, whatever kind it is of. -/
theorem ofDatum_of_isNull (h : d.isNull = true) : ofDatum d = .ok null := by
  match d, h with
  | .boolean none, _ => rfl
  | .int32 none, _ => rfl
  | .int64 none, _ => rfl
  | .uint32 none, _ => rfl
  | .uint64 none, _ => rfl
  | .float none, _ => rfl
  | .double none, _ => rfl
  | .str none, _ => rfl
  | .binary none, _ => rfl
  | .date none, _ => rfl
  | .time none, _ => rfl
  | .timestamp none, _ => rfl

theorem keeps_of_isNull (h : d.isNull = true) : Keeps d (.str none) :=
  ⟨.null, ofDatum_of_isNull h, rfl, rfl⟩

theorem Native.returned_eq (h : Native d) : returned d = .ok d := by
  cases h with
  | integer n => rfl
  | real h =>
      rw [returned, ofDatum, ofReal, if_neg (by simp [h])]
      rfl
  | text s =>
      cases s with
      | none => rfl
      | some s => exact (keeps_of_text rfl).returned_eq
  | blob bytes => rfl

/-- What comes back is of one kind for each class, and NULL is a text. -/
theorem tag_of_toDatum {stored : Stored} (h : stored.toDatum = .ok later) :
    later.tag ∈ ["Int64", "Double", "Str", "Binary"] := by
  cases stored with
  | null =>
      cases h
      decide
  | integer n =>
      cases h
      simp [Datum.tag]
  | real x =>
      cases h
      simp [Datum.tag]
  | text bytes =>
      rw [toDatum] at h
      split at h
      · cases h
        simp [Datum.tag]
      · cases h
  | blob bytes =>
      cases h
      simp [Datum.tag]

/-- All other data come back as data of another kind. -/
theorem tag_ne_of_not_native (h : ¬ Native d) (hreturned : returned d = .ok later) :
    later.tag ≠ d.tag := by
  obtain ⟨stored, -, hlater⟩ := exists_of_bind_eq_ok hreturned
  have hkind := tag_of_toDatum hlater
  have hother : ∀ tag, tag ∉ ["Int64", "Double", "Str", "Binary"] → later.tag ≠ tag := by
    rintro tag htag rfl
    exact htag hkind
  have hnull : returned d = .ok (.str none) → d.tag ≠ "Str" → later.tag ≠ d.tag := by
    intro hd htag
    obtain rfl := Except.ok.inj (hd.symm.trans hreturned)
    exact htag.symm
  -- eight kinds never come back, and the others do unless they hold nothing that their class keeps
  cases d with
  | boolean v => exact hother "Boolean" (by decide)
  | int32 v => exact hother "Int32" (by decide)
  | uint32 v => exact hother "Uint32" (by decide)
  | uint64 v => exact hother "Uint64" (by decide)
  | float v => exact hother "Float" (by decide)
  | date v => exact hother "Date" (by decide)
  | time v => exact hother "Time" (by decide)
  | timestamp v => exact hother "Timestamp" (by decide)
  | str v => exact absurd (.text v) h
  | int64 v =>
      cases v with
      | none => exact hnull rfl (by decide)
      | some n => exact absurd (.integer n) h
  | binary v =>
      cases v with
      | none => exact hnull rfl (by decide)
      | some bytes => exact absurd (.blob bytes) h
  | double v =>
      cases v with
      | none => exact hnull rfl (by decide)
      | some x =>
          -- the undefined number, which has no place among the others
          have hx : x.isNaN = true := by
            by_contra hx
            exact h (.real (Bool.not_eq_true _ ▸ hx))
          refine hnull ?_ (show "Double" ≠ "Str" by decide)
          rw [returned, ofDatum, ofReal, if_pos hx]
          rfl

end Stored

/-! ### Contents through the classes -/

section Contents

open Stored

/-- An integer that has room comes back, whatever its type is. -/
theorem exists_keeps_of_integer? {s : Scalar} {n : Int} {bound : Datum}
    (hs : s.integer? = some n) (hd : bound.HoldsInteger n)
    (hn : IntRange.int64.contains n = true) :
    ∃ later, Keeps bound later ∧ later.isNull = false ∧ s.type.fetch later = .ok s := by
  obtain ⟨later, hlater, hnull, hholds⟩ := exists_keeps_of_holdsInteger hd hn
  exact ⟨later, hlater, hnull, Scalar.fetch_of_holdsInteger hs hholds⟩

/-- A value that is kept comes back, unless it is an integer without room. -/
theorem exists_keeps_scalar {s : Scalar} (htype : s.type ∈ ScalarType.kept)
    (hroom : ∀ n, s = .uint64 n → n.toNat < 2 ^ 63) :
    ∃ bound later, s.toValue.toDatum = .ok bound ∧ Keeps bound later ∧
      later.isNull = false ∧ s.type.fetch later = .ok s := by
  cases s with
  | bool v =>
      refine ⟨.boolean (some v), .int64 (some (if v then 1 else 0)), rfl, ⟨_, rfl, rfl, rfl⟩, rfl,
        ?_⟩
      cases v <;> rfl
  | int32 v =>
      exact ⟨_, (exists_keeps_of_integer? rfl (.int32 v)
        (IntRange.contains_int64_of_int32 (IntRange.contains_int32 v))).imp fun _ h => ⟨rfl, h⟩⟩
  | int64 v =>
      exact ⟨_, (exists_keeps_of_integer? rfl (.int64 v)
        (IntRange.contains_int64 v)).imp fun _ h => ⟨rfl, h⟩⟩
  | uint32 v =>
      exact ⟨_, (exists_keeps_of_integer? rfl (.uint32 v)
        (IntRange.contains_int64_of_uint32 (IntRange.contains_uint32 v))).imp
          fun _ h => ⟨rfl, h⟩⟩
  | uint64 v =>
      have hn : IntRange.int64.contains v.toNat = true := by
        have hv := hroom v rfl
        rw [IntRange.contains_iff]
        simp only [IntRange.int64]
        omega
      exact ⟨_, (exists_keeps_of_integer? rfl (.uint64 v) hn).imp fun _ h => ⟨rfl, h⟩⟩
  | text v => exact ⟨.str (some v), .str (some v), rfl, keeps_of_text rfl, rfl, rfl⟩
  | bytes v =>
      exact ⟨.binary (some v), .binary (some v), rfl, ⟨.blob v, rfl, rfl, rfl⟩, rfl, rfl⟩
  | timestamp v =>
      refine ⟨.timestamp (some (String.ofList v.write)), .str (some (String.ofList v.write)), rfl,
        keeps_of_text rfl, rfl, ?_⟩
      exact congrArg (Scalar.timestamp <$> ·)
        (Datum.fetchInstant_of_readInstant? v.readInstant?_write)
  | date v =>
      refine ⟨.date (some (String.ofList v.write)), .str (some (String.ofList v.write)), rfl,
        keeps_of_text rfl, rfl, ?_⟩
      exact congrArg (Scalar.date <$> ·) (Datum.fetchDate_of_read? v.read?_write)
  | time v =>
      refine ⟨.time (some (String.ofList v.write)), .str (some (String.ofList v.write)), rfl,
        keeps_of_text rfl, rfl, ?_⟩
      exact congrArg (Scalar.time <$> ·) (Datum.fetchTime_of_read? v.read?_write)
  | float v => simp [ScalarType.kept, Scalar.type] at htype
  | double v => simp [ScalarType.kept, Scalar.type] at htype
  | instant v => simp [ScalarType.kept, Scalar.type] at htype
  | json v => simp [ScalarType.kept, Scalar.type] at htype

/-- The content of a property comes back, and so does the lack of one. -/
theorem exists_keeps_content {type : FieldType} {scalar : ScalarType}
    (htype : type = .required scalar ∨ type = .optional scalar) (hkept : scalar ∈ ScalarType.kept)
    {content : FieldValue} (hcontent : type.admits content = true)
    (hroom : ∀ n, content = .present (.uint64 n) → n.toNat < 2 ^ 63) :
    ∃ bound later, content.toValue.toDatum = .ok bound ∧ Keeps bound later ∧
      ∀ (own : OwnTypes) (row : Row) (column : String), row.get? column = some later →
        type.fetch own row column = .ok content := by
  cases content with
  | custom value => rcases htype with rfl | rfl <;> cases hcontent
  | absent absent =>
      -- every kind of NULL comes back as one, and the type says what is absent
      obtain ⟨d, hd, hnull⟩ := absent.exists_toDatum_null
      rcases htype with rfl | rfl
      · cases hcontent
      · obtain rfl : absent = scalar := by simpa [FieldType.admits] using hcontent
        refine ⟨d, .str none, hd, keeps_of_isNull hnull, fun own row column hrow => ?_⟩
        rw [FieldType.fetch_optional hrow]
        rfl
  | present value =>
      obtain rfl : value.type = scalar := by
        rcases htype with rfl | rfl <;> simpa [FieldType.admits] using hcontent
      obtain ⟨d, later, hd, hlater, hnull, hfetch⟩ := exists_keeps_scalar hkept
        fun n hn => hroom n (congrArg FieldValue.present hn)
      refine ⟨d, later, hd, hlater, fun own row column hrow => ?_⟩
      rcases htype with rfl | rfl
      · rw [FieldType.fetch_required hrow, hfetch]
        rfl
      · rw [FieldType.fetch_optional hrow, if_neg (by simp [hnull]), hfetch]
        rfl

end Contents

end Sqlite

end RowMapper
