import Mathlib.Data.List.Nodup
import RowMapper.Binding
import RowMapper.Proofs.Calendar.RoundTrip
import RowMapper.Proofs.Paging.CursorCodec

/-!
# Contents there and back

The content of a property goes out as a value, which is bound as a datum, and comes back from a
datum.  Each type has a way of its own through these steps.

* `Scalar.Storable`, `FieldValue.Storable` — what comes back as it was: all but JSON values, points
  in time whose year has not four digits, and values of a caller's own type;
* `Row.get?_of_mem` — a datum is found under the name of its column, wherever it stands;
* `Scalar.exists_fetch` — a scalar comes back from the datum as which it is bound;
* `FieldType.exists_fetch` — so does the content of a property, or the lack of one, which is a NULL
  of the kind of its type.
-/

namespace RowMapper

/-- Whether a scalar comes back as it was.  A point in time is written with a year of four digits
at least, and read with one of four digits only. -/
def Scalar.Storable : Scalar → Prop
  | json _ => False
  | instant t => 0 ≤ t.date.year ∧ t.date.year ≤ 9999
  | _ => True

/-- Whether the content of a property comes back as it was. -/
def FieldValue.Storable : FieldValue → Prop
  | present value => value.Storable
  | absent _ => True
  | custom _ => False

/-! ### Rows -/

/-- A datum is found under the name of its column if no other has that name. -/
theorem Row.get?_of_mem {row : Row} (hnames : (row.fields.map (·.1)).Nodup) {column : String}
    {d : Datum} (hmem : (column, d) ∈ row.fields) : row.get? column = some d := by
  have hfound : (row.fields.find? fun field => field.1 == column).isSome := by
    rw [List.find?_isSome]
    exact ⟨_, hmem, beq_self_eq_true column⟩
  obtain ⟨entry, hfind⟩ := Option.isSome_iff_exists.mp hfound
  have hname : entry.1 = column := by simpa using List.find?_some hfind
  obtain rfl := List.inj_on_of_nodup_map hnames (List.mem_of_find?_eq_some hfind) hmem hname
  unfold Row.get?
  rw [hfind]

/-! ### Integers -/

namespace Datum

/-- An integer within 64 bits passes through them. -/
theorem fetchInt64_of_integer? {d : Datum} {n : Int} (h : d.integer? = some n)
    (hn : IntRange.int64.contains n = true) : d.fetchInt64 = .ok n := by
  unfold fetchInt64
  rw [h]
  exact if_pos hn

/-- An integer in a range that has room in 64 bits is fetched. -/
theorem fetchInt_of_integer? {d : Datum} {n : Int} {range : IntRange} (type : String)
    (h : d.integer? = some n) (hn : IntRange.int64.contains n = true)
    (hrange : range.contains n = true) : d.fetchInt range type = .ok n := by
  rw [fetchInt, fetchInt64_of_integer? h hn]
  exact if_pos hrange

/-! ### Points in time -/

theorem fetchInstant_of_readInstant? {s : String} {t : DateTime} (h : readInstant? s = some t) :
    (timestamp (some s)).fetchInstant = .ok t := by
  unfold fetchInstant
  dsimp only
  rw [h]

theorem fetchInstant_of_readInstant?_eq_none {s : String} (h : readInstant? s = none) :
    (timestamp (some s)).fetchInstant = .error (.badTimestamp s) := by
  unfold fetchInstant
  dsimp only
  rw [h]

theorem fetchDate_of_read? {s : String} {d : Date} (h : Date.read? s = some d) :
    (date (some s)).fetchDate = .ok d := by
  unfold fetchDate
  dsimp only
  rw [h]

theorem fetchTime_of_read? {s : String} {t : TimeOfDay} (h : TimeOfDay.read? s = some t) :
    (time (some s)).fetchTime = .ok t := by
  unfold fetchTime
  dsimp only
  rw [h]

end Datum

/-! ### Scalars -/

theorem IntRange.contains_int64_of_uint32 {n : Int} (h : uint32.contains n = true) :
    int64.contains n = true := by
  rw [contains_iff] at h ⊢
  simp only [uint32, int64] at h ⊢
  omega

/-- **A scalar comes back from the datum as which it is bound.** -/
theorem Scalar.exists_fetch {s : Scalar} (h : s.Storable) :
    ∃ d, s.toValue.toDatum = .ok d ∧ d.isNull = false ∧ s.type.fetch d = .ok s := by
  cases s with
  | bool v => exact ⟨.boolean (some v), rfl, rfl, rfl⟩
  | int32 v =>
      refine ⟨.int32 (some v), rfl, rfl, ?_⟩
      have hv := IntRange.contains_int32 v
      show (int32 ∘ Int32.ofInt) <$> Datum.fetchInt .int32 "i32" (.int32 (some v)) = _
      rw [Datum.fetchInt_of_integer? "i32" rfl (IntRange.contains_int64_of_int32 hv) hv]
      exact congrArg (fun n => Except.ok (int32 n)) v.ofInt_toInt
  | int64 v =>
      refine ⟨.int64 (some v), rfl, rfl, ?_⟩
      show (int64 ∘ Int64.ofInt) <$> Datum.fetchInt64 (.int64 (some v)) = _
      rw [Datum.fetchInt64_of_integer? rfl (IntRange.contains_int64 v)]
      exact congrArg (fun n => Except.ok (int64 n)) v.ofInt_toInt
  | uint32 v =>
      refine ⟨.uint32 (some v), rfl, rfl, ?_⟩
      have hv := IntRange.contains_uint32 v
      show (uint32 ∘ UInt32.ofNat ∘ Int.toNat) <$>
        Datum.fetchInt .uint32 "u32" (.uint32 (some v)) = _
      rw [Datum.fetchInt_of_integer? "u32" rfl (IntRange.contains_int64_of_uint32 hv) hv]
      exact congrArg (fun n => Except.ok (uint32 n)) (UInt32.ofNat_toNat)
  | uint64 v => exact ⟨.uint64 (some v), rfl, rfl, rfl⟩
  | float v => exact ⟨.float (some v), rfl, rfl, rfl⟩
  | double v => exact ⟨.double (some v), rfl, rfl, rfl⟩
  | text v => exact ⟨.str (some v), rfl, rfl, rfl⟩
  | bytes v => exact ⟨.binary (some v), rfl, rfl, rfl⟩
  | instant v =>
      refine ⟨.timestamp (some (String.ofList v.writeUtc)), rfl, rfl, ?_⟩
      have hread : Datum.readInstant? (String.ofList v.writeUtc) = some v :=
        v.readInstant?_writeUtc.trans (if_pos h)
      exact congrArg (instant <$> ·) (Datum.fetchInstant_of_readInstant? hread)
  | timestamp v =>
      refine ⟨.timestamp (some (String.ofList v.write)), rfl, rfl, ?_⟩
      exact congrArg (timestamp <$> ·) (Datum.fetchInstant_of_readInstant? v.readInstant?_write)
  | date v =>
      refine ⟨.date (some (String.ofList v.write)), rfl, rfl, ?_⟩
      exact congrArg (date <$> ·) (Datum.fetchDate_of_read? v.read?_write)
  | time v =>
      refine ⟨.time (some (String.ofList v.write)), rfl, rfl, ?_⟩
      exact congrArg (time <$> ·) (Datum.fetchTime_of_read? v.read?_write)
  | json v => cases h

/-- The lack of a value is bound as a NULL. -/
theorem ScalarType.exists_toDatum_null (type : ScalarType) :
    ∃ d, type.null.toDatum = .ok d ∧ d.isNull = true := by
  cases type <;> exact ⟨_, rfl, rfl⟩

/-- **The content of a property comes back from the datum as which it is bound**, in whatever row
this is the datum of the column. -/
theorem FieldType.exists_fetch {type : FieldType} {content : FieldValue}
    (htype : type.admits content = true) (h : content.Storable) :
    ∃ d, content.toValue.toDatum = .ok d ∧ ∀ (own : OwnTypes) (row : Row) (column : String),
      row.get? column = some d → type.fetch own row column = .ok content := by
  cases content with
  | custom value => cases h
  | absent absent =>
      obtain ⟨d, hd, hnull⟩ := absent.exists_toDatum_null
      cases type with
      | optional type =>
          obtain rfl : absent = type := by simpa [admits] using htype
          refine ⟨d, hd, fun own row column hrow => ?_⟩
          rw [fetch_optional hrow, if_pos hnull]
      | _ => cases htype
  | present value =>
      obtain ⟨d, hd, hnull, hfetch⟩ := value.exists_fetch h
      refine ⟨d, hd, fun own row column hrow => ?_⟩
      cases type with
      | required type =>
          obtain rfl : value.type = type := by simpa [admits] using htype
          rw [fetch_required hrow, hfetch]
          rfl
      | optional type =>
          obtain rfl : value.type = type := by simpa [admits] using htype
          rw [fetch_optional hrow, if_neg (by simp [hnull]), hfetch]
          rfl
      | _ => cases htype

end RowMapper
