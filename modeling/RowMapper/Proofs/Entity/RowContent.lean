import Mathlib.Logic.Relation
import RowMapper.Entity.Type
import RowMapper.Proofs.Outcome

/-!
# Entities depend on what the columns hold

A database may answer the columns of a row in any order, with names in capitals or not, and with
columns that no property asks for.  None of this matters to an entity that is read from the row.

* `Row.Distinct` — no two fields of the row share a name, whatever the case of its letters;
* `Row.Rewritten` — one change of a row that leaves what the columns hold, and `Row.Unfit`, what is
  wrong with a row for a field of an entity;
* `OwnType.ReadsColumn` — what is expected of the types of the caller's own;
* `Row.named` — the data of a column, and `Row.get?_eq_head?`, the look-up among them;
* `content_decides` — an entity, or the error, after any such changes.

### Two passes of the look-up

A field of exactly the name of a column comes before one whose name differs in case.  With several
fields of one name the two passes answer differently, and a change of case matters.  The changes
keep the data of a column up to their order (`Row.Rewritten.named_perm`); that there is at most one
of them makes the passes agree, and need hold of the first row only.  The fields that are added
have names of no column, and may share these.
-/

namespace RowMapper

open LetterCase

/-- Two names that are equal to a third one up to case are equal up to case. -/
theorem LetterCase.equalIgnoringAsciiCase_of_both {a b c : String}
    (ha : equalIgnoringAsciiCase a c = true) (hb : equalIgnoringAsciiCase b c = true) :
    equalIgnoringAsciiCase a b = true := by
  rw [equalIgnoringAsciiCase_iff] at ha hb ⊢
  rw [ha, hb]

namespace Row

/-! ### Rows that hold the same -/

/-- No two fields of the row share a name, whatever the case of its letters. -/
def Distinct (row : Row) : Prop :=
  row.fields.Pairwise fun f g => equalIgnoringAsciiCase f.1 g.1 = false

/-- One change of a row that leaves what some columns hold. -/
inductive Rewritten (columns : List String) : Row → Row → Prop where
  | permuted {index : String} {fields fields' : List (String × Datum)}
      (h : fields.Perm fields') : Rewritten columns ⟨index, fields⟩ ⟨index, fields'⟩
  | renumbered (index index' : String) (fields : List (String × Datum)) :
      Rewritten columns ⟨index, fields⟩ ⟨index', fields⟩
  | recased {index : String} (before after : List (String × Datum)) {name name' : String}
      (d : Datum) (h : equalIgnoringAsciiCase name name' = true) :
      Rewritten columns ⟨index, before ++ (name, d) :: after⟩
        ⟨index, before ++ (name', d) :: after⟩
  | added {index : String} (before after : List (String × Datum)) {name : String} (d : Datum)
      (h : ∀ column ∈ columns, equalIgnoringAsciiCase name column = false) :
      Rewritten columns ⟨index, before ++ after⟩ ⟨index, before ++ (name, d) :: after⟩
  | removed {index : String} (before after : List (String × Datum)) {name : String} (d : Datum)
      (h : ∀ column ∈ columns, equalIgnoringAsciiCase name column = false) :
      Rewritten columns ⟨index, before ++ (name, d) :: after⟩ ⟨index, before ++ after⟩

/-- The row has no datum under the name of a column, whatever the case of its letters. -/
def Lacks (row : Row) (column : String) : Prop :=
  ∀ f ∈ row.fields, equalIgnoringAsciiCase f.1 column = false

/-- The row has a datum under the name of a column, whatever the case of its letters. -/
def Holds (row : Row) (column : String) (d : Datum) : Prop :=
  ∃ name, (name, d) ∈ row.fields ∧ equalIgnoringAsciiCase name column = true

/-- What is wrong with a row for a field of an entity: it has no datum under the name of the column,
or one that the type of the field does not take. -/
inductive Unfit (own : OwnTypes) (row : Row) (field : Field) : Error → Prop where
  | missing (h : row.Lacks field.property.column) (hknown : ∀ name, field.type ≠ .own name) :
      Unfit own row field (.mapping field.property.name field.type.fullName none
        (.missingColumn field.property.column))
  /-- A type of the caller's own says in its own way that the column is missing. -/
  | missed {name : String} {fault : FetchFault} (h : row.Lacks field.property.column)
      (hown : field.type = .own name)
      (hfetch : (own name).fetch row field.property.column = .error fault) :
      Unfit own row field (.mapping field.property.name field.type.fullName none fault)
  | unread {d : Datum} {fault : FetchFault} (h : row.Holds field.property.column d)
      (hfetch : field.type.fetch own row field.property.column = .error fault) :
      Unfit own row field (.mapping field.property.name field.type.fullName (some d) fault)

/-! ### The data of a column -/

variable {row row' : Row} {columns : List String} {column : String} {d : Datum}

/-- The data under the name of a column, whatever the case of its letters. -/
def named (row : Row) (column : String) : List Datum :=
  (row.fields.filter fun f => equalIgnoringAsciiCase f.1 column).map (·.2)

theorem mem_named : d ∈ row.named column ↔ row.Holds column d := by
  simp [named, Holds]

/-- A row has at most one datum for a column if no two of its names are equal up to case. -/
theorem Distinct.length_named_le_one (h : row.Distinct) (column : String) :
    (row.named column).length ≤ 1 := by
  unfold Distinct at h
  rw [named, List.length_map]
  have hpair := h.filter fun f => equalIgnoringAsciiCase f.1 column
  have hall : ∀ f ∈ row.fields.filter fun f => equalIgnoringAsciiCase f.1 column,
      equalIgnoringAsciiCase f.1 column = true := fun f hf => (List.mem_filter.mp hf).2
  generalize row.fields.filter (fun f => equalIgnoringAsciiCase f.1 column) = matching at hpair hall
  rcases matching with _ | ⟨f, _ | ⟨g, rest⟩⟩
  · exact Nat.zero_le 1
  · exact Nat.le_refl 1
  · have hdiffer := List.rel_of_pairwise_cons hpair List.mem_cons_self
    rw [equalIgnoringAsciiCase_of_both (hall f (by simp)) (hall g (by simp))] at hdiffer
    cases hdiffer

/-- The look-up answers the datum of a column if there is at most one. -/
theorem get?_eq_head? (h : (row.named column).length ≤ 1) :
    row.get? column = (row.named column).head? := by
  unfold get?
  split
  · -- the exact pass has met the only datum of the column
    next f hfind =>
      have hname : f.1 = column := by simpa using List.find?_some hfind
      have hmem : f.2 ∈ row.named column :=
        mem_named.mpr ⟨f.1, List.mem_of_find?_eq_some hfind, by simp [hname]⟩
      obtain ⟨d, hd⟩ := List.length_eq_one_iff.mp
        (Nat.le_antisymm h (List.length_pos_of_mem hmem))
      rw [hd] at hmem ⊢
      rw [List.mem_singleton.mp hmem, List.head?_cons]
  · rw [named, List.head?_map, List.head?_filter]

/-- A change of a row keeps the data of its columns, up to their order. -/
theorem Rewritten.named_perm (h : Rewritten columns row row') (hcolumn : column ∈ columns) :
    (row.named column).Perm (row'.named column) := by
  cases h with
  | permuted h => exact (h.filter _).map _
  | renumbered index index' fields => exact .refl _
  | @recased _ before after name name' d h =>
      -- the field is under the name of the column with both names, or with neither
      have hname : equalIgnoringAsciiCase name column = equalIgnoringAsciiCase name' column := by
        rw [Bool.eq_iff_iff, equalIgnoringAsciiCase_iff, equalIgnoringAsciiCase_iff,
          equalIgnoringAsciiCase_iff.mp h]
      simp only [named, List.filter_append, List.filter_cons, hname]
      split <;> simp
  | added before after d h => simp [named, h column hcolumn]
  | removed before after d h => simp [named, h column hcolumn]

/-- So do any number of changes. -/
theorem named_perm_of_rewritten (h : Relation.ReflTransGen (Rewritten columns) row row')
    (hcolumn : column ∈ columns) : (row.named column).Perm (row'.named column) := by
  induction h with
  | refl => exact .refl _
  | tail _ hstep ih => exact ih.trans (hstep.named_perm hcolumn)

/-- Lists of at most one element start alike if they have the same elements. -/
theorem head?_eq_of_perm {α : Type} {as bs : List α} (h : as.Perm bs) (hone : as.length ≤ 1) :
    bs.head? = as.head? := by
  match as, hone with
  | [], _ => rw [h.nil_eq]
  | [_], _ => rw [h.singleton_eq]

/-- The datum of a column is found after any number of changes. -/
theorem Distinct.get?_of_rewritten (hrow : row.Distinct)
    (h : Relation.ReflTransGen (Rewritten columns) row row') (hcolumn : column ∈ columns) :
    row'.get? column = row.get? column := by
  have hperm := named_perm_of_rewritten h hcolumn
  have hone := hrow.length_named_le_one column
  rw [get?_eq_head? hone, get?_eq_head? (hperm.length_eq ▸ hone)]
  exact head?_eq_of_perm hperm hone

/-- The look-up answers what a column holds, and nothing if it holds nothing. -/
theorem Distinct.get?_eq_some_iff (h : row.Distinct) :
    row.get? column = some d ↔ row.Holds column d := by
  have hone := h.length_named_le_one column
  rw [get?_eq_head? hone, ← mem_named]
  match row.named column, hone with
  | [], _ => simp
  | [_], _ => simp [eq_comm]

theorem Distinct.get?_eq_none_iff (h : row.Distinct) :
    row.get? column = none ↔ row.Lacks column := by
  rw [get?_eq_head? (h.length_named_le_one column), List.head?_eq_none_iff, named,
    List.map_eq_nil_iff, List.filter_eq_nil_iff]
  simp [Lacks]

end Row

/-! ### Types of the caller's own -/

/-- A type of the caller's own fetches a value from a row by the name of a column: it looks at what
the row has under that name, and fails if there is nothing. -/
structure OwnType.ReadsColumn (type : OwnType) : Prop where
  congr : ∀ (row row' : Row) (column : String), row'.get? column = row.get? column →
    type.fetch row' column = type.fetch row column
  missing : ∀ (row : Row) (column : String), row.get? column = none →
    ∃ fault, type.fetch row column = .error fault

namespace FieldType

variable {own : OwnTypes} {row row' : Row} {column : String}

/-- What is fetched depends on the datum of the column. -/
theorem fetch_congr (hown : ∀ name, (own name).ReadsColumn)
    (h : row'.get? column = row.get? column) (type : FieldType) :
    type.fetch own row' column = type.fetch own row column := by
  have hfield : row'.field column = row.field column := by rw [Row.field, h, Row.field]
  cases type with
  | required type => rw [fetch, hfield, fetch]
  | optional type => rw [fetch, hfield, fetch]
  | own name => rw [fetch, (hown name).congr row row' column h, fetch]
  | optionalOwn name => rw [fetch, hfield, (hown name).congr row row' column h, fetch]

/-- A column that is missing is found out first, except by a type of the caller's own. -/
theorem fetch_of_missing (h : row.get? column = none) {type : FieldType}
    (hknown : ∀ name, type ≠ .own name) :
    type.fetch own row column = .error (.missingColumn column) := by
  have hfield := Row.field_of_get?_eq_none h
  cases type with
  | required type => rw [fetch, hfield]; rfl
  | optional type => rw [fetch, hfield]; rfl
  | own name => exact absurd rfl (hknown name)
  | optionalOwn name => rw [fetch, hfield]; rfl

end FieldType

/-! ### Entities -/

section Entities

variable {own : OwnTypes} {row row' : Row}

/-- A column is fetched unless something is wrong with the row for its property. -/
theorem fetchColumn_eq_error_iff (hrow : row.Distinct) {field : Field} {e : Error} :
    fetchColumn own row field.property.column field.property.name field.type = .error e ↔
      row.Unfit own field e := by
  have herror : fetchColumn own row field.property.column field.property.name field.type =
      .error e ↔ ∃ fault, field.type.fetch own row field.property.column = .error fault ∧
        e = .mapping field.property.name field.type.fullName (row.get? field.property.column)
          fault := by
    unfold fetchColumn
    cases field.type.fetch own row field.property.column <;> simp [eq_comm]
  rw [herror]
  cases hget : row.get? field.property.column with
  | some d =>
      have hholds := hrow.get?_eq_some_iff.mp hget
      constructor
      · rintro ⟨fault, hfetch, rfl⟩
        exact .unread hholds hfetch
      · rintro (⟨hlacks, -⟩ | ⟨hlacks, -, -⟩ | ⟨hother, hfetch⟩)
        · rw [hrow.get?_eq_none_iff.mpr hlacks] at hget
          cases hget
        · rw [hrow.get?_eq_none_iff.mpr hlacks] at hget
          cases hget
        · obtain rfl := Option.some.inj ((hrow.get?_eq_some_iff.mpr hother).symm.trans hget)
          exact ⟨_, hfetch, rfl⟩
  | none =>
      have hlacks := hrow.get?_eq_none_iff.mp hget
      constructor
      · rintro ⟨fault, hfetch, rfl⟩
        by_cases hown : ∃ name, field.type = .own name
        · obtain ⟨name, hname⟩ := hown
          refine .missed hlacks hname ?_
          rw [hname, FieldType.fetch] at hfetch
          cases hvalue : (own name).fetch row field.property.column with
          | error fault' =>
              rw [hvalue] at hfetch
              rw [Except.error.inj hfetch]
          | ok value =>
              rw [hvalue] at hfetch
              cases hfetch
        · rw [not_exists] at hown
          rw [FieldType.fetch_of_missing hget hown] at hfetch
          obtain rfl := Except.error.inj hfetch
          exact .missing hlacks hown
      · rintro (⟨-, hknown⟩ | ⟨-, hname, hfetch⟩ | ⟨hholds, -⟩)
        · exact ⟨_, FieldType.fetch_of_missing hget hknown, rfl⟩
        · refine ⟨_, ?_, rfl⟩
          rw [hname, FieldType.fetch, hfetch]
          rfl
        · rw [hrow.get?_eq_some_iff.mpr hholds] at hget
          cases hget

/-- Something is wrong with a row for a field if it lacks the column, or holds what the type of the
field does not take. -/
theorem exists_unfit_iff (hown : ∀ name, (own name).ReadsColumn) (hrow : row.Distinct)
    {field : Field} :
    (∃ e, row.Unfit own field e) ↔ row.Lacks field.property.column ∨
      ∃ d fault, row.Holds field.property.column d ∧
        field.type.fetch own row field.property.column = .error fault := by
  constructor
  · rintro ⟨e, ⟨hlacks, -⟩ | ⟨hlacks, -, -⟩ | ⟨hholds, hfetch⟩⟩
    · exact .inl hlacks
    · exact .inl hlacks
    · exact .inr ⟨_, _, hholds, hfetch⟩
  · rintro (hlacks | ⟨d, fault, hholds, hfetch⟩)
    · by_cases hname : ∃ name, field.type = .own name
      · obtain ⟨name, hname⟩ := hname
        obtain ⟨fault, hfault⟩ :=
          (hown name).missing row field.property.column (hrow.get?_eq_none_iff.mpr hlacks)
        exact ⟨_, .missed hlacks hname hfault⟩
      · exact ⟨_, .missing hlacks (not_exists.mp hname)⟩
    · exact ⟨_, .unread hholds hfetch⟩

namespace EntityType

/-- The columns of the properties that are stored. -/
def storedColumns (type : EntityType) : List String :=
  (type.properties.filter (·.write)).map (·.column)

theorem mem_storedColumns {type : EntityType} {field : Field} (hfield : field ∈ type.fields)
    (hwrite : field.property.write = true) : field.property.column ∈ type.storedColumns :=
  List.mem_map.mpr ⟨field.property,
    List.mem_filter.mpr ⟨List.mem_map_of_mem hfield, hwrite⟩, rfl⟩

/-- A field is read unless it is stored and something is wrong with the row for it. -/
theorem fetchField_eq_error_iff (hrow : row.Distinct) {field : Field} {e : Error} :
    fetchField own row field = .error e ↔
      field.property.write = true ∧ row.Unfit own field e := by
  rw [← fetchColumn_eq_error_iff hrow]
  unfold fetchField
  cases field.property.write with
  | false => simp [pure, Except.pure]
  | true =>
      cases fetchColumn own row field.property.column field.property.name field.type <;>
        simp [bind, Except.bind, pure, Except.pure]

/-- A field is read as before if its column, should it be stored, holds the same. -/
theorem fetchField_congr (hown : ∀ name, (own name).ReadsColumn) {field : Field}
    (h : field.property.write = true →
      row'.get? field.property.column = row.get? field.property.column) :
    fetchField own row' field = fetchField own row field := by
  unfold fetchField
  cases hwrite : field.property.write with
  | false => rfl
  | true => simp only [fetchColumn, FieldType.fetch_congr hown (h hwrite), h hwrite]

/-- An entity is read as before if the columns of its stored properties hold the same. -/
theorem fromRow_congr (hown : ∀ name, (own name).ReadsColumn) {type : EntityType}
    (h : ∀ column ∈ type.storedColumns, row'.get? column = row.get? column) :
    type.fromRow own row' = type.fromRow own row := by
  refine mapM_congr fun field hfield => fetchField_congr hown fun hwrite => ?_
  exact h _ (mem_storedColumns hfield hwrite)

/-- The error of an entity is that of its first property for which something is wrong with the row.
-/
theorem fromRow_eq_error_iff (hrow : row.Distinct) {type : EntityType} {e : Error} :
    type.fromRow own row = .error e ↔
      ∃ before field after, type.fields = before ++ field :: after ∧
        field.property.write = true ∧ row.Unfit own field e ∧
        ∀ earlier ∈ before, earlier.property.write = true → ∀ e', ¬ row.Unfit own earlier e' := by
  have hread : ∀ field, (∃ content, fetchField own row field = .ok content) ↔
      (field.property.write = true → ∀ e', ¬ row.Unfit own field e') := by
    intro field
    cases hfetch : fetchField own row field with
    | ok content =>
        refine iff_of_true ⟨content, rfl⟩ fun hwrite e' he' => ?_
        rw [(fetchField_eq_error_iff hrow).mpr ⟨hwrite, he'⟩] at hfetch
        cases hfetch
    | error e' =>
        obtain ⟨hwrite, he'⟩ := (fetchField_eq_error_iff hrow).mp hfetch
        exact iff_of_false (fun ⟨_, h⟩ => nomatch h) fun h => h hwrite e' he'
  -- with this the first step that ends badly is the first field that does not fit
  rw [fromRow, mapM_eq_error_iff]
  simp only [hread, fetchField_eq_error_iff hrow]
  constructor
  · rintro ⟨before, field, after, hfields, hbefore, hwrite, hunfit⟩
    exact ⟨before, field, after, hfields, hwrite, hunfit, hbefore⟩
  · rintro ⟨before, field, after, hfields, hwrite, hunfit, hbefore⟩
    exact ⟨before, field, after, hfields, hbefore, hwrite, hunfit⟩

/-- There is no entity if something is wrong with the row for one of its stored properties. -/
theorem exists_fromRow_eq_error_iff (hrow : row.Distinct) {type : EntityType} :
    (∃ e, type.fromRow own row = .error e) ↔
      ∃ field ∈ type.fields, field.property.write = true ∧ ∃ e, row.Unfit own field e := by
  constructor
  · rintro ⟨e, he⟩
    obtain ⟨before, field, after, hfields, hwrite, hunfit, -⟩ := (fromRow_eq_error_iff hrow).mp he
    exact ⟨field, by simp [hfields], hwrite, e, hunfit⟩
  · rintro ⟨field, hfield, hwrite, e, hunfit⟩
    cases hread : type.fromRow own row with
    | error e' => exact ⟨e', rfl⟩
    | ok record =>
        obtain ⟨content, -, hcontent⟩ := (mem_of_mapM_eq_ok hread).2 field hfield
        rw [(fetchField_eq_error_iff hrow).mpr ⟨hwrite, hunfit⟩] at hcontent
        cases hcontent

end EntityType

/-- **An entity depends on what the columns hold, and on nothing else.**  Take any type, whose
properties may be of types of the caller's own that fetch by the name of a column
(`OwnType.ReadsColumn`), and a row no two of whose names are equal up to case.  Put its fields into
another order, change the case of their names and the number of the row, and add and remove fields
that no stored property asks for, any number of times (`Row.Rewritten`).  The same entity is read,
or the same error comes with all its parts.  Nothing is read exactly if the row lacks the column of
some stored property, or holds what the type of the property does not take; and the error is that of
the first such property (`Row.Unfit`). -/
theorem content_decides (own : OwnTypes) (hown : ∀ name, (own name).ReadsColumn)
    (type : EntityType) (hrow : row.Distinct)
    (h : Relation.ReflTransGen (Row.Rewritten type.storedColumns) row row') :
    type.fromRow own row' = type.fromRow own row ∧
      ((∃ e, type.fromRow own row' = .error e) ↔
        ∃ field ∈ type.fields, field.property.write = true ∧
          (row.Lacks field.property.column ∨
            ∃ d fault, row.Holds field.property.column d ∧
              field.type.fetch own row field.property.column = .error fault)) ∧
      ∀ e, type.fromRow own row' = .error e ↔
        ∃ before field after, type.fields = before ++ field :: after ∧
          field.property.write = true ∧ row.Unfit own field e ∧
          ∀ earlier ∈ before, earlier.property.write = true →
            ∀ e', ¬ row.Unfit own earlier e' := by
  have hsame : type.fromRow own row' = type.fromRow own row :=
    EntityType.fromRow_congr hown fun column hcolumn => hrow.get?_of_rewritten h hcolumn
  rw [hsame]
  refine ⟨rfl, ?_, fun _ => EntityType.fromRow_eq_error_iff hrow⟩
  simp only [EntityType.exists_fromRow_eq_error_iff hrow, exists_unfit_iff hown hrow]

end Entities

/-! ### A gauge -/

namespace Sample

/-- A type of the caller's own: the name of a station, which is fetched as a text. -/
def station : OwnType where
  fetch row column := do
    let d ← row.field column
    let name ← d.fetchText
    return ⟨name, .string (some name)⟩
  initial := ⟨"", .string (some "")⟩
  absent := ⟨"", .string none⟩

/-- Stations are the only type of the caller's own. -/
def stations : OwnTypes := fun name =>
  if name = "weather::Station" then station else OwnTypes.unknown name

theorem readsColumn_stations (name : String) : (stations name).ReadsColumn := by
  unfold stations
  split
  · refine ⟨fun row row' column h => ?_, fun row column h => ⟨.missingColumn column, ?_⟩⟩
    · simp only [station, Row.field, h]
    · simp only [station, Row.field_of_get?_eq_none h]
      rfl
  · exact ⟨fun _ _ _ _ => rfl, fun _ _ _ => ⟨_, rfl⟩⟩

/-- A gauge: a number that the database gives it, the station where it stands, a level that may be
missing, a sum that the database computes, and a mark that is not stored. -/
def gauge : EntityType :=
  ⟨"Gauge", none, none, false,
    [⟨⟨"id", "id", "i64", false, false, false, false, true⟩, .required .int64⟩,
      ⟨⟨"at", "station", "Station", false, false, false, false, true⟩, .own "weather::Station"⟩,
      ⟨⟨"level", "level", "Option<f64>", false, false, false, false, true⟩, .optional .double⟩,
      ⟨⟨"sum", "sum", "u32", false, false, true, false, true⟩, .required .uint32⟩,
      ⟨⟨"draft", "draft", "bool", false, false, false, false, false⟩, .required .bool⟩],
    ["id", "at", "level", "sum"]⟩

/-- A row whose level is no number, and which has no sum. -/
def gaugeRow : Row :=
  ⟨"0", [("id", .int64 (some 4)), ("Station", .str (some "north")), ("level", .str (some "high"))]⟩

/-- The same with two of its fields turned around, names in other capitals and a column of its own.
-/
def gaugeRow' : Row :=
  ⟨"7", [("STATION", .str (some "north")), ("draft", .boolean (some true)), ("id", .int64 (some 4)),
    ("level", .str (some "high"))]⟩

theorem distinct_gaugeRow : gaugeRow.Distinct := by
  unfold Row.Distinct
  decide

theorem rewritten_gaugeRow :
    Relation.ReflTransGen (Row.Rewritten gauge.storedColumns) gaugeRow gaugeRow' := by
  have hpermuted : Row.Rewritten gauge.storedColumns gaugeRow
      ⟨"0", [("Station", .str (some "north")), ("id", .int64 (some 4)),
        ("level", .str (some "high"))]⟩ := .permuted (.swap _ _ _)
  have hrecased : Row.Rewritten gauge.storedColumns
      ⟨"0", [("Station", .str (some "north")), ("id", .int64 (some 4)),
        ("level", .str (some "high"))]⟩
      ⟨"0", [("STATION", .str (some "north")), ("id", .int64 (some 4)),
        ("level", .str (some "high"))]⟩ :=
    .recased [] _ _ (by decide)
  have hadded : Row.Rewritten gauge.storedColumns
      ⟨"0", [("STATION", .str (some "north")), ("id", .int64 (some 4)),
        ("level", .str (some "high"))]⟩
      { gaugeRow' with index := "0" } := .added [_] [_, _] _ (by decide)
  exact .tail (.tail (.tail (.single hpermuted) hrecased) hadded) (.renumbered "0" "7" _)

end Sample

open Sample in
/-- The level is the first that does not fit, after the number and the station, and the error names
it. -/
theorem content_decides_gauge :
    gauge.fromRow stations gaugeRow' = gauge.fromRow stations gaugeRow ∧
      gauge.fromRow stations gaugeRow' = .error (.mapping "level" "core::option::Option<f64>"
        (some (.str (some "high"))) (.expected "floating point")) := by
  obtain ⟨hsame, -, herror⟩ := content_decides stations readsColumn_stations gauge
    distinct_gaugeRow rewritten_gaugeRow
  have hlevel : gaugeRow.Holds "level" (.str (some "high")) :=
    ⟨"level", by simp [gaugeRow], by decide⟩
  refine ⟨hsame, (herror _).mpr ⟨[_, _], _, _, rfl, rfl, .unread hlevel rfl, ?_⟩⟩
  intro earlier hearlier _ e' hunfit
  have hfetch := (fetchColumn_eq_error_iff distinct_gaugeRow).mpr hunfit
  rcases List.mem_cons.mp hearlier with rfl | hearlier
  · cases hfetch
  · obtain rfl := List.mem_singleton.mp hearlier
    cases hfetch

end RowMapper
