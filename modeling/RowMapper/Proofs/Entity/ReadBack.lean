import RowMapper.Proofs.Entity.Storage
import RowMapper.Proofs.Json.Nesting

/-!
# Contents that come back up to a bound

Two kinds of contents are written further than they are read.  JSON values are written however deep
they are nested, and points in time with the sign of a year that has not four digits.

* `fetchColumn_of_bounded` — a column of a scalar that is read up to a bound;
* `Datum.Carries` — the data as which a text comes back: the text, or its bytes;
* `json_read_back` — a JSON value comes back if it is nested at most 127 deep;
* `instant_read_back` — a point in time comes back if its year has four digits.

Beyond the bound the contents are bound all the same, so that the row is stored, and the error comes
with the fetch.
-/

namespace RowMapper

/-- A column whose scalar is read up to a bound is fetched up to the bound, whether or not the value
may be absent. -/
theorem fetchColumn_of_bounded (own : OwnTypes) {row : Row} {column : String} (property : String)
    {type : FieldType} {scalar : ScalarType} {d : Datum} {value : Scalar} {fault : FetchFault}
    {bound : Prop} [Decidable bound] (htype : type = .required scalar ∨ type = .optional scalar)
    (hrow : row.get? column = some d) (hnull : d.isNull = false)
    (hfetch : scalar.fetch d = if bound then .ok value else .error fault) :
    fetchColumn own row column property type =
      if bound then .ok (.present value)
      else .error (.mapping property type.fullName (some d) fault) := by
  have hpresent : type.fetch own row column = .present <$> scalar.fetch d := by
    rcases htype with rfl | rfl
    · exact FieldType.fetch_required hrow scalar
    · rw [FieldType.fetch_optional hrow, if_neg (by simp [hnull])]
  by_cases hbound : bound
  · have hvalue : type.fetch own row column = .ok (.present value) := by
      rw [hpresent, hfetch, if_pos hbound]
      rfl
    rw [if_pos hbound]
    simp only [fetchColumn, hvalue]
  · have hfault : type.fetch own row column = .error fault := by
      rw [hpresent, hfetch, if_neg hbound]
      rfl
    rw [if_neg hbound]
    simp only [fetchColumn, hrow, hfault]

/-! ### JSON values -/

namespace Datum

/-- The data as which a text that was bound comes back: the text, or its bytes. -/
def Carries (d : Datum) (text : String) : Prop :=
  d = .str (some text) ∨ d = .binary (some text.toByteArray.data.toList)

variable {d : Datum}

theorem Carries.isNull_eq_false {text : String} (h : d.Carries text) : d.isNull = false := by
  rcases h with rfl | rfl <;> rfl

/-- A text and its bytes are read as the same JSON value. -/
theorem Carries.fetchJson_of_read? {text : String} {v : Json} (h : d.Carries text)
    (hread : Json.read? text = some v) : d.fetchJson = .ok v := by
  rcases h with rfl | rfl
  · simp only [Datum.fetchJson, hread]
  · simp only [Datum.fetchJson, Cursor.fromUTF8?_bytes, Option.bind_some, hread]

theorem Carries.fetchJson_of_read?_eq_none {text : String} (h : d.Carries text)
    (hread : Json.read? text = none) : d.fetchJson = .error .badJson := by
  rcases h with rfl | rfl
  · simp only [Datum.fetchJson, hread]
  · simp only [Datum.fetchJson, Cursor.fromUTF8?_bytes, Option.bind_some, hread]

/-- The text of a JSON value, and the bytes of the text, are fetched as the value, up to a depth. -/
theorem Carries.fetch_json {v : Json} (hwhole : v.Whole) (hordered : v.Ordered)
    (h : d.Carries v.text) :
    ScalarType.json.fetch d =
      if v.depth ≤ Json.maxDepth then .ok (.json v) else .error .badJson := by
  have hread := Json.read?_text hwhole hordered
  by_cases hdepth : v.depth ≤ Json.maxDepth
  · rw [if_pos hdepth] at hread ⊢
    rw [ScalarType.fetch, h.fetchJson_of_read? hread]
    rfl
  · rw [if_neg hdepth] at hread ⊢
    rw [ScalarType.fetch, h.fetchJson_of_read?_eq_none hread]
    rfl

end Datum

/-- **JSON values come back as they were, up to a depth.**  Take a value whose numbers are integers
of 64 bits (`Json.Whole`), of whatever size, and with whatever names and texts in it, its fields in
their order (`Json.Ordered`).  It is bound as its text.  A datum that carries this text, as a text
or as its bytes (`Datum.Carries`), is fetched for a property of JSON values as it was, null
included, if arrays and objects are nested at most 127 deep in it (`Json.depth`).  Otherwise the
property cannot be fetched. -/
theorem json_read_back (own : OwnTypes) {v : Json} (hwhole : v.Whole) (hordered : v.Ordered)
    {row : Row} {column : String} (property : String) {type : FieldType} {d : Datum}
    (htype : type = .required .json ∨ type = .optional .json) (hd : d.Carries v.text)
    (hrow : row.get? column = some d) :
    (FieldValue.present (.json v)).toValue.toDatum = .ok (.str (some v.text)) ∧
      fetchColumn own row column property type =
        if v.depth ≤ 127 then .ok (.present (.json v))
        else .error (.mapping property type.fullName (some d) .badJson) :=
  ⟨rfl, fetchColumn_of_bounded own property htype hrow hd.isNull_eq_false
    (hd.fetch_json hwhole hordered)⟩

namespace Sample

/-- A value with the integers at the ends of their ranges, and with names and texts that are
escaped. -/
def parcel : Json :=
  .object
    [("\n\"", .array [.number (.integer (-9223372036854775808)),
        .number (.integer 18446744073709551615), .null]),
      ("🙂", .object [("", .string "\\\x07🙂"), ("open", .array [.bool true, .array []])])]

theorem whole_parcel : parcel.Whole := by
  have hleast : (Json.number (.integer (-9223372036854775808))).Whole := .integer (.inl rfl)
  have hgreatest : (Json.number (.integer 18446744073709551615)).Whole := .integer (.inr rfl)
  have hempty : (Json.array []).Whole := .array fun _ h => nomatch h
  have hnumbers := List.forall_mem_cons.mpr ⟨hleast, List.forall_mem_cons.mpr
    ⟨hgreatest, List.forall_mem_singleton.mpr .null⟩⟩
  have hflags := List.forall_mem_cons.mpr ⟨.bool true, List.forall_mem_singleton.mpr hempty⟩
  refine .object (List.forall_mem_cons.mpr ⟨.array hnumbers, List.forall_mem_singleton.mpr ?_⟩)
  exact .object (List.forall_mem_cons.mpr
    ⟨.string _, List.forall_mem_singleton.mpr (.array hflags)⟩)

/-- Reading what the value means leaves it as it is, so it is in order. -/
theorem ordered_parcel : parcel.Ordered := by
  have hmeant : parcel.normalize = parcel := rfl
  exact hmeant ▸ parcel.ordered_normalize

end Sample

open Sample in
theorem json_read_back_parcel :
    fetchColumn .unknown ⟨"0", [("payload", .str (some parcel.text))]⟩ "payload" "payload"
        (.required .json) = .ok (.present (.json parcel)) ∧
      fetchColumn .unknown ⟨"0", [("payload", .binary (some parcel.text.toByteArray.data.toList))]⟩
        "payload" "payload" (.optional .json) = .ok (.present (.json parcel)) ∧
      fetchColumn .unknown ⟨"0", [("payload", .str (some "null"))]⟩ "payload" "payload"
        (.optional .json) = .ok (.present (.json .null)) :=
  ⟨(json_read_back .unknown whole_parcel ordered_parcel "payload" (.inl rfl) (.inl rfl) rfl).2,
    (json_read_back .unknown whole_parcel ordered_parcel "payload" (.inr rfl) (.inr rfl) rfl).2,
    (json_read_back .unknown .null .null "payload" (.inr rfl) (.inl rfl) rfl).2⟩

namespace Sample

/-- Arrays that are nested in each other. -/
def nested : Nat → Json
  | 0 => .array []
  | n + 1 => .array [nested n]

theorem depth_nested (n : Nat) : (nested n).depth = n + 1 := by
  induction n with
  | zero => rfl
  | succ n ih => simp [nested, Json.depth, Json.depthItems, ih]

theorem whole_nested (n : Nat) : (nested n).Whole := by
  induction n with
  | zero => exact .array fun _ h => nomatch h
  | succ n ih => exact .array fun _ h => List.mem_singleton.mp h ▸ ih

theorem ordered_nested (n : Nat) : (nested n).Ordered := by
  induction n with
  | zero => exact .array fun _ h => nomatch h
  | succ n ih => exact .array fun _ h => List.mem_singleton.mp h ▸ ih

end Sample

open Sample in
/-- 128 arrays in each other are bound as their text, and this cannot be fetched. -/
theorem json_refused_nested :
    (nested 127).Whole ∧ (nested 127).Ordered ∧
      (FieldValue.present (.json (nested 127))).toValue.toDatum =
        .ok (.str (some (nested 127).text)) ∧
      fetchColumn .unknown ⟨"0", [("payload", .str (some (nested 127).text))]⟩ "payload" "payload"
          (.required .json) =
        .error (.mapping "payload" "serde_json::value::Value"
          (some (.str (some (nested 127).text))) .badJson) := by
  have hwhole := whole_nested 127
  have hordered := ordered_nested 127
  have hdeep : ¬ (nested 127).depth ≤ Json.maxDepth := by
    rw [depth_nested]
    decide
  refine ⟨hwhole, hordered, rfl, ?_⟩
  exact (fetchColumn_of_bounded .unknown "payload" (.inl rfl) rfl rfl
    (Datum.Carries.fetch_json hwhole hordered (.inl rfl))).trans (if_neg hdeep)

/-! ### Points in time -/

/-- The text of a point in time is fetched as the point in time, if the year has four digits. -/
theorem Datum.fetch_writeUtc (t : DateTime) :
    ScalarType.instant.fetch (.timestamp (some (String.ofList t.writeUtc))) =
      if 0 ≤ t.date.year ∧ t.date.year ≤ 9999 then .ok (.instant t)
      else .error (.badTimestamp (String.ofList t.writeUtc)) := by
  have hread := t.readInstant?_writeUtc
  by_cases hyear : 0 ≤ t.date.year ∧ t.date.year ≤ 9999
  · rw [if_pos hyear] at hread ⊢
    rw [ScalarType.fetch, fetchInstant_of_readInstant? hread]
    rfl
  · rw [if_neg hyear] at hread ⊢
    rw [ScalarType.fetch, fetchInstant_of_readInstant?_eq_none hread]
    rfl

/-- **Points in time come back as they were if their years have four digits**, with whatever
fraction of a second and within a leap second.  Those of other years are bound with the sign of the
year (`DateTime.writeUtc`), and `fetchColumn` fails on the text that was bound. -/
theorem instant_read_back (own : OwnTypes) (t : DateTime) {row : Row} {column : String}
    (property : String) {type : FieldType} {d : Datum}
    (htype : type = .required .instant ∨ type = .optional .instant)
    (hd : (FieldValue.present (.instant t)).toValue.toDatum = .ok d)
    (hrow : row.get? column = some d) :
    fetchColumn own row column property type =
      if 0 ≤ t.date.year ∧ t.date.year ≤ 9999 then .ok (.present (.instant t))
      else .error (.mapping property type.fullName (some d)
        (.badTimestamp (String.ofList t.writeUtc))) := by
  obtain rfl : Datum.timestamp (some (String.ofList t.writeUtc)) = d := Except.ok.inj hd
  exact fetchColumn_of_bounded own property htype hrow rfl (Datum.fetch_writeUtc t)

namespace Sample

/-- The last nanosecond of the last year of four digits, which is within a leap second. -/
def lastNanosecond : DateTime := ⟨⟨9999, 12, 31, by decide⟩, ⟨23, 59, 59, 1999999999, by decide⟩⟩

/-- The first second of the year after it. -/
def nextYear : DateTime := ⟨⟨10000, 1, 1, by decide⟩, .midnight⟩

end Sample

open Sample in
theorem instant_read_back_last :
    fetchColumn .unknown
        ⟨"0", [("taken_at", .timestamp (some "9999-12-31T23:59:60.999999999+00:00"))]⟩
        "taken_at" "taken_at" (.optional .instant) =
      .ok (.present (.instant lastNanosecond)) :=
  instant_read_back .unknown lastNanosecond "taken_at" (.inr rfl) rfl rfl

open Sample in
/-- The year 10000 is bound with its sign, and cannot be fetched. -/
theorem instant_refused_next :
    (FieldValue.present (.instant nextYear)).toValue.toDatum =
        .ok (.timestamp (some "+10000-01-01T00:00:00+00:00")) ∧
      fetchColumn .unknown ⟨"0", [("taken_at", .timestamp (some "+10000-01-01T00:00:00+00:00"))]⟩
          "taken_at" "taken_at" (.required .instant) =
        .error (.mapping "taken_at" "chrono::datetime::DateTime<chrono::offset::utc::Utc>"
          (some (.timestamp (some "+10000-01-01T00:00:00+00:00")))
          (.badTimestamp "+10000-01-01T00:00:00+00:00")) :=
  ⟨rfl, fetchColumn_of_bounded .unknown "taken_at" (.inl rfl) rfl rfl
    (Datum.fetch_writeUtc nextYear)⟩

end RowMapper
