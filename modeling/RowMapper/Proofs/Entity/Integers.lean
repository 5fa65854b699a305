import RowMapper.Proofs.Entity.Storage

/-!
# Integers are fetched as they are

Drivers answer integers in any width, with or without a sign, and truth values as 0 and 1.  An
integer property takes all of them, as far as its own type reaches.

* `Datum.HoldsInteger` — the whole number that a datum holds;
* `ScalarType.range?`, `Scalar.integer?` — the types of integers with their ranges, and the numbers
  of their values;
* `ScalarType.exists_fetch`, `fetch_eq_error` — what a type of integers fetches from a datum depends
  on the number only, and without one it fetches nothing;
* `integers_fetched` — integers and truth values through a column of a row.

### The middle type

All conversions pass through 64 bits with a sign but one, from 64 bits without a sign to
themselves.  This is why no number is lost on the way: a number beyond 64 bits with a sign comes
from that kind of datum only, and fits into that type only (`Datum.HoldsInteger.cases`).
-/

namespace RowMapper

/-! ### Numbers of data and of scalars -/

/-- The whole number that a datum holds: an integer of any kind, or a truth value as 0 or 1. -/
inductive Datum.HoldsInteger : Datum → Int → Prop where
  | int32 (n : Int32) : HoldsInteger (.int32 (some n)) n.toInt
  | int64 (n : Int64) : HoldsInteger (.int64 (some n)) n.toInt
  | uint32 (n : UInt32) : HoldsInteger (.uint32 (some n)) n.toNat
  | uint64 (n : UInt64) : HoldsInteger (.uint64 (some n)) n.toNat
  | no : HoldsInteger (.boolean (some false)) 0
  | yes : HoldsInteger (.boolean (some true)) 1

/-- The integers that a type holds, if it is a type of integers. -/
def ScalarType.range? : ScalarType → Option IntRange
  | int32 => some .int32
  | int64 => some .int64
  | uint32 => some .uint32
  | uint64 => some .uint64
  | _ => none

/-- The number of an integer. -/
def Scalar.integer? : Scalar → Option Int
  | int32 v => some v.toInt
  | int64 v => some v.toInt
  | uint32 v => some v.toNat
  | uint64 v => some v.toNat
  | _ => none

/-- An integer is known by its type and its number. -/
theorem Scalar.eq_of_integer? {s t : Scalar} {n : Int} (htype : s.type = t.type)
    (hs : s.integer? = some n) (ht : t.integer? = some n) : s = t := by
  cases s <;> cases hs <;> cases t <;> cases htype
  · exact congrArg int32 (Int32.toInt_inj.mp (Option.some.inj ht)).symm
  · exact congrArg int64 (Int64.toInt_inj.mp (Option.some.inj ht)).symm
  · exact congrArg uint32 (UInt32.toNat_inj.mp (Int.ofNat.inj (Option.some.inj ht))).symm
  · exact congrArg uint64 (UInt64.toNat_inj.mp (Int.ofNat.inj (Option.some.inj ht))).symm

namespace Datum

variable {d : Datum} {n : Int}

theorem holdsInteger_iff : d.HoldsInteger n ↔ d.integer? = some n := by
  constructor
  · rintro (_ | _ | _ | _) <;> rfl
  · intro h
    match d, h with
    | .int32 (some v), rfl => exact .int32 v
    | .int64 (some v), rfl => exact .int64 v
    | .uint32 (some v), rfl => exact .uint32 v
    | .uint64 (some v), rfl => exact .uint64 v
    | .boolean (some false), rfl => exact .no
    | .boolean (some true), rfl => exact .yes

/-- A datum that holds no number is none to the conversions. -/
theorem integer?_eq_none (h : ∀ n, ¬ d.HoldsInteger n) : d.integer? = none := by
  rw [Option.eq_none_iff_forall_ne_some]
  intro n hn
  exact h n (holdsInteger_iff.mpr hn)

/-- Only a datum of 64 bits without a sign holds a number beyond 64 bits with a sign. -/
theorem HoldsInteger.cases (h : d.HoldsInteger n) :
    IntRange.int64.contains n = true ∨ ∃ v : UInt64, d = .uint64 (some v) ∧ n = v.toNat := by
  cases h with
  | int32 v => exact .inl (IntRange.contains_int64_of_int32 (IntRange.contains_int32 v))
  | int64 v => exact .inl (IntRange.contains_int64 v)
  | uint32 v => exact .inl (IntRange.contains_int64_of_uint32 (IntRange.contains_uint32 v))
  | uint64 v => exact .inr ⟨v, rfl, rfl⟩
  | no => exact .inl rfl
  | yes => exact .inl rfl

/-- A number passes through 64 bits with a sign, or is refused there. -/
theorem HoldsInteger.fetchInt64 (h : d.HoldsInteger n) :
    d.fetchInt64 =
      if IntRange.int64.contains n then .ok n else .error (.outOfRange n "i64") := by
  unfold Datum.fetchInt64
  rw [holdsInteger_iff.mp h]

/-- A number is fetched in a range, unless one of the two checks refuses it. -/
theorem HoldsInteger.fetchInt (h : d.HoldsInteger n) {range : IntRange} (type : String)
    (hmiddle : range.contains n = true → IntRange.int64.contains n = true) :
    d.fetchInt range type =
      if range.contains n then .ok n
      else .error (.outOfRange n (if IntRange.int64.contains n then type else "i64")) := by
  rw [Datum.fetchInt, h.fetchInt64]
  by_cases hn : IntRange.int64.contains n = true
  · rw [if_pos hn, if_pos hn]
    rfl
  · rw [if_neg hn, if_neg hn, if_neg (mt hmiddle hn)]
    rfl

theorem fetchInt64_eq_error (h : ∀ n, ¬ d.HoldsInteger n) :
    d.fetchInt64 = .error (.expected "integer") := by
  unfold Datum.fetchInt64
  rw [integer?_eq_none h]

theorem fetchInt_eq_error (h : ∀ n, ¬ d.HoldsInteger n) (range : IntRange) (type : String) :
    d.fetchInt range type = .error (.expected "integer") := by
  rw [Datum.fetchInt, fetchInt64_eq_error h]
  rfl

/-- An integer is compared with zero and one after it has passed through 64 bits with a sign. -/
theorem HoldsInteger.fetchBool_of_ne (h : d.HoldsInteger n) (hd : ∀ b, d ≠ .boolean b) :
    d.fetchBool = (do
      let n ← d.fetchInt64
      if n = 0 then .ok false else if n = 1 then .ok true else .error (.notBoolean n)) := by
  have hnumber := holdsInteger_iff.mp h
  unfold Datum.fetchBool
  split
  · exact absurd rfl (hd _)
  · exact absurd rfl (hd _)
  · rw [hnumber]

/-- Zero and one are truth values, and no other number is one. -/
theorem HoldsInteger.fetchBool (h : d.HoldsInteger n) :
    d.fetchBool =
      if n = 0 then .ok false
      else if n = 1 then .ok true
      else .error (if IntRange.int64.contains n then .notBoolean n else .outOfRange n "i64") := by
  by_cases hboolean : ∃ b, d = .boolean b
  · obtain ⟨b, rfl⟩ := hboolean
    cases h <;> rfl
  · rw [h.fetchBool_of_ne (not_exists.mp hboolean), h.fetchInt64]
    by_cases hmiddle : IntRange.int64.contains n = true
    · rw [if_pos hmiddle, if_pos hmiddle]
      rfl
    · -- zero and one have room in 64 bits
      have hbounds := mt (IntRange.contains_iff _ _).mpr hmiddle
      simp only [IntRange.int64] at hbounds
      rw [if_neg hmiddle, if_neg hmiddle, if_neg (by omega), if_neg (by omega)]
      rfl

theorem fetchBool_eq_error (h : ∀ n, ¬ d.HoldsInteger n) :
    d.fetchBool = .error (.expected "boolean") := by
  have hnumber := integer?_eq_none h
  unfold fetchBool
  split
  · next b => cases b <;> cases hnumber
  · rfl
  · rw [hnumber]

end Datum

/-! ### Types of integers -/

namespace ScalarType

variable {type : ScalarType} {range : IntRange} {d : Datum} {n : Int}

/-- All other data pass through 64 bits with a sign on their way to 64 bits without one. -/
theorem fetch_uint64_of_ne (hd : ∀ v, d ≠ .uint64 (some v)) :
    uint64.fetch d =
      (Scalar.uint64 ∘ UInt64.ofNat ∘ Int.toNat) <$> d.fetchInt .uint64 "u64" := by
  rw [fetch]
  exact hd

/-- The number alone decides what is fetched from a datum: the integer with this number if the type
has it, and an error with the number otherwise. -/
theorem exists_fetch (htype : type.range? = some range) (hd : d.HoldsInteger n) :
    ∃ s, type.fetch d =
        (if range.contains n then .ok s
        else .error (.outOfRange n
          (if IntRange.int64.contains n then type.fullName else "i64"))) ∧
      (range.contains n = true → s.type = type ∧ s.integer? = some n) := by
  cases type <;> cases htype
  case int32 =>
    refine ⟨.int32 (.ofInt n), ?_, fun hn => ⟨rfl, ?_⟩⟩
    · rw [fetch, hd.fetchInt "i32" IntRange.contains_int64_of_int32]
      split <;> rfl
    · have hbounds := (IntRange.contains_iff _ _).mp hn
      rw [Scalar.integer?, Int32.toInt_ofInt_of_le hbounds.1 (Int.lt_add_one_of_le hbounds.2)]
  case int64 =>
    refine ⟨.int64 (.ofInt n), ?_, fun hn => ⟨rfl, ?_⟩⟩
    · rw [fetch, hd.fetchInt64]
      split <;> rfl
    · have hbounds := (IntRange.contains_iff _ _).mp hn
      rw [Scalar.integer?, Int64.toInt_ofInt_of_le hbounds.1 (Int.lt_add_one_of_le hbounds.2)]
  case uint32 =>
    refine ⟨.uint32 (.ofNat n.toNat), ?_, fun hn => ⟨rfl, ?_⟩⟩
    · rw [fetch, hd.fetchInt "u32" IntRange.contains_int64_of_uint32]
      split <;> rfl
    · have hbounds := (IntRange.contains_iff _ _).mp hn
      obtain ⟨m, rfl⟩ := Int.eq_ofNat_of_zero_le hbounds.1
      have hm : m < UInt32.size := Nat.lt_succ_of_le (Int.ofNat_le.mp hbounds.2)
      rw [Scalar.integer?, Int.toNat_natCast, UInt32.toNat_ofNat_of_lt' hm]
  case uint64 =>
    by_cases hwide : ∃ v, d = .uint64 (some v)
    · -- the one conversion that does not pass through 64 bits with a sign
      obtain ⟨v, rfl⟩ := hwide
      cases hd
      refine ⟨.uint64 v, ?_, fun _ => ⟨rfl, rfl⟩⟩
      rw [if_pos (IntRange.contains_uint64 v)]
      rfl
    · have hmiddle := hd.cases.resolve_right fun ⟨v, hv, _⟩ => hwide ⟨v, hv⟩
      refine ⟨.uint64 (.ofNat n.toNat), ?_, fun hn => ⟨rfl, ?_⟩⟩
      · rw [fetch_uint64_of_ne (not_exists.mp hwide), hd.fetchInt "u64" fun _ => hmiddle]
        split <;> rfl
      · have hbounds := (IntRange.contains_iff _ _).mp hn
        obtain ⟨m, rfl⟩ := Int.eq_ofNat_of_zero_le hbounds.1
        have hm : m < UInt64.size := Nat.lt_succ_of_le (Int.ofNat_le.mp hbounds.2)
        rw [Scalar.integer?, Int.toNat_natCast, UInt64.toNat_ofNat_of_lt' hm]

/-- A datum that holds no number is fetched by no type of integers. -/
theorem fetch_eq_error (htype : type.range? = some range) (hd : ∀ n, ¬ d.HoldsInteger n) :
    type.fetch d = .error (.expected "integer") := by
  cases type <;> cases htype
  case int32 =>
    rw [fetch, Datum.fetchInt_eq_error hd]
    rfl
  case int64 =>
    rw [fetch, Datum.fetchInt64_eq_error hd]
    rfl
  case uint32 =>
    rw [fetch, Datum.fetchInt_eq_error hd]
    rfl
  case uint64 =>
    have hne : ∀ v, d ≠ .uint64 (some v) := by
      rintro v rfl
      exact hd _ (.uint64 v)
    rw [fetch_uint64_of_ne hne, Datum.fetchInt_eq_error hd]
    rfl

end ScalarType

/-! ### Columns -/

/-- A column that is required is fetched as its datum is, and its error has all that there is to
say. -/
theorem fetchColumn_required (own : OwnTypes) {row : Row} {column : String} {d : Datum}
    (hrow : row.get? column = some d) (property : String) (type : ScalarType) :
    fetchColumn own row column property (.required type) =
      match type.fetch d with
      | .ok s => .ok (.present s)
      | .error fault => .error (.mapping property type.fullName (some d) fault) := by
  rw [fetchColumn, FieldType.fetch_required hrow, hrow]
  cases type.fetch d <;> rfl

/-- **Integers are fetched as they are, or not at all.**  Take the datum of a column for a property
that needs a value.  If it holds a whole number (`Datum.HoldsInteger`), as an integer of any kind or
as a truth value, then a type of integers (`ScalarType.range?`) fetches exactly this number if it
lies in the range of the type, and fails with the number otherwise; and truth values are fetched
from exactly zero and one.  If it holds none, which is so for NULL and for data of all other kinds,
all of these types fail. -/
theorem integers_fetched (own : OwnTypes) {row : Row} {column : String} {d : Datum}
    (hrow : row.get? column = some d) (property : String) :
    (∀ n, d.HoldsInteger n →
      (∀ (type : ScalarType) (range : IntRange), type.range? = some range →
        (range.least ≤ n ∧ n ≤ range.most → ∃ s, s.type = type ∧ s.integer? = some n ∧
          fetchColumn own row column property (.required type) = .ok (.present s)) ∧
        (¬ (range.least ≤ n ∧ n ≤ range.most) →
          fetchColumn own row column property (.required type) =
            .error (.mapping property type.fullName (some d) (.outOfRange n
              (if IntRange.int64.contains n then type.fullName else "i64"))))) ∧
      (n = 0 → fetchColumn own row column property (.required .bool) =
        .ok (.present (.bool false))) ∧
      (n = 1 → fetchColumn own row column property (.required .bool) =
        .ok (.present (.bool true))) ∧
      (n ≠ 0 → n ≠ 1 → fetchColumn own row column property (.required .bool) =
        .error (.mapping property "bool" (some d)
          (if IntRange.int64.contains n then .notBoolean n else .outOfRange n "i64")))) ∧
    ((∀ n, ¬ d.HoldsInteger n) →
      (∀ (type : ScalarType) (range : IntRange), type.range? = some range →
        fetchColumn own row column property (.required type) =
          .error (.mapping property type.fullName (some d) (.expected "integer"))) ∧
      fetchColumn own row column property (.required .bool) =
        .error (.mapping property "bool" (some d) (.expected "boolean"))) := by
  refine ⟨fun n hn => ⟨fun type range hrange => ?_, ?_⟩, fun hnone => ⟨?_, ?_⟩⟩
  · obtain ⟨s, hfetch, hs⟩ := ScalarType.exists_fetch hrange hn
    rw [fetchColumn_required own hrow, hfetch, ← IntRange.contains_iff]
    refine ⟨fun hin => ⟨s, (hs hin).1, (hs hin).2, ?_⟩, fun hout => ?_⟩
    · rw [if_pos hin]
    · rw [if_neg hout]
  · have hbool : ScalarType.bool.fetch d = .bool <$> d.fetchBool := rfl
    rw [fetchColumn_required own hrow, hbool, hn.fetchBool]
    refine ⟨fun hzero => ?_, fun hone => ?_, fun hzero hone => ?_⟩
    · rw [if_pos hzero]
      rfl
    · rw [if_neg (by omega), if_pos hone]
      rfl
    · rw [if_neg hzero, if_neg hone]
      rfl
  · intro type range hrange
    rw [fetchColumn_required own hrow, ScalarType.fetch_eq_error hrange hnone]
  · rw [fetchColumn_required own hrow, ScalarType.fetch, Datum.fetchBool_eq_error hnone]
    rfl

/-- The first number beyond 64 bits with a sign, and the last one below zero. -/
theorem integers_fetched_edges :
    fetchColumn .unknown ⟨"0", [("n", .uint64 (some 9223372036854775808))]⟩ "n" "n"
          (.required .int64) =
        .error (.mapping "n" "i64" (some (.uint64 (some 9223372036854775808)))
          (.outOfRange 9223372036854775808 "i64")) ∧
      (∃ s, s.type = .uint64 ∧ s.integer? = some 9223372036854775808 ∧
        fetchColumn .unknown ⟨"0", [("n", .uint64 (some 9223372036854775808))]⟩ "n" "n"
          (.required .uint64) = .ok (.present s)) ∧
      fetchColumn .unknown ⟨"0", [("N", .int32 (some (-1)))]⟩ "n" "n" (.required .uint64) =
        .error (.mapping "n" "u64" (some (.int32 (some (-1)))) (.outOfRange (-1) "u64")) ∧
      fetchColumn .unknown ⟨"0", [("n", .int64 none)]⟩ "n" "n" (.required .bool) =
        .error (.mapping "n" "bool" (some (.int64 none)) (.expected "boolean")) := by
  have hwide := ((@integers_fetched .unknown ⟨"0", [("n", .uint64 (some 9223372036854775808))]⟩ "n"
    _ rfl "n").1 _ (.uint64 9223372036854775808)).1
  have hbelow := ((@integers_fetched .unknown ⟨"0", [("N", .int32 (some (-1)))]⟩ "n" _ rfl "n").1
    _ (.int32 (-1))).1
  have hnull := (@integers_fetched .unknown ⟨"0", [("n", .int64 none)]⟩ "n" _ rfl "n").2
  refine ⟨?_, ?_, ?_, ?_⟩
  · exact (hwide .int64 .int64 rfl).2 (by decide)
  · exact (hwide .uint64 .uint64 rfl).1 (by decide)
  · exact (hbelow .uint64 .uint64 rfl).2 (by decide)
  · refine (hnull ?_).2
    intro n hn
    cases hn

end RowMapper
