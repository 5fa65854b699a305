import RowMapper.Proofs.Entity.Provision
import RowMapper.Proofs.Entity.Storage
import RowMapper.Proofs.Mapper.Ensuring
import RowMapper.Proofs.Mapper.Refusal

/-!
# What is inserted is read back

An insert names columns and binds values, and a row of the table that was inserted into is read by
the names of its columns.

* `Record.Typed` — a record whose contents are of the types of its properties;
* `Descriptor.leftOut` — the stored fields that an insert leaves to the database: generated keys and
  computed columns;
* `exists_fromRow` — a row from which every stored field is fetched is read;
* `inserted_read_back` — the entity that is read from what an insert wrote, together with any
  values of the columns that it left out.

### Two lists that must agree

The columns of an INSERT are those of the descriptor, and its values are taken out of the list that
the entity lays out.  They fit together because the values are taken for the same properties, each
under its own name (`Model.Describes.exists_valuesOf`).
-/

namespace RowMapper

open Sql

/-! ### Typed records -/

/-- A record is that of an entity of a type, with contents of the types of its properties. -/
def Record.Typed (record : Record) (type : EntityType) : Prop :=
  List.Forall₂ (fun field entry => entry.1 = field.property.name ∧
    field.type.admits entry.2 = true) type.fields record

theorem Record.Typed.complete {record : Record} {type : EntityType} (h : record.Typed type) :
    record.Complete type := by
  unfold Typed at h
  rw [Complete, EntityType.properties, List.map_map]
  generalize type.fields = fields at h
  induction h with
  | nil => rfl
  | cons hentry _ ih => exact congrArg₂ List.cons hentry.1 ih

/-- A list of contents in the order of fields with different names is looked up by these names. -/
theorem exists_get? {R : Field → FieldValue → Prop} {fields : List Field} {record : Record}
    (hnames : (fields.map (·.property.name)).Nodup)
    (h : List.Forall₂ (fun field entry => entry.1 = field.property.name ∧ R field entry.2)
      fields record) :
    ∀ field ∈ fields, ∃ content, record.get? field.property.name = some content ∧
      (field.property.name, content) ∈ record ∧ R field content := by
  induction h with
  | nil => exact fun _ hfield => absurd hfield List.not_mem_nil
  | @cons first entry fields record hentry hrest ih =>
      obtain ⟨name, content⟩ := entry
      obtain ⟨rfl, hcontent⟩ := hentry
      rw [List.map_cons, List.nodup_cons] at hnames
      intro field hfield
      rcases List.mem_cons.mp hfield with rfl | hfield
      · refine ⟨content, ?_, List.mem_cons_self, hcontent⟩
        rw [Record.get?_cons, if_pos rfl]
      · obtain ⟨other, hget, hmem, hother⟩ := ih hnames.2 field hfield
        have hne : first.property.name ≠ field.property.name := fun hname =>
          hnames.1 (List.mem_map.mpr ⟨field, hfield, hname.symm⟩)
        refine ⟨other, ?_, List.mem_cons_of_mem _ hmem, hother⟩
        rw [Record.get?_cons, if_neg hne, hget]

/-- The value of a typed entity for a field can be bound, and is fetched as the content from which
it was made, in whatever row it stands. -/
theorem Record.Typed.fetch_value {record : Record} {type : EntityType} (h : record.Typed type)
    (hstorable : ∀ entry ∈ record, entry.2.Storable)
    (hnames : (type.fields.map (·.property.name)).Nodup) {field : Field}
    (hfield : field ∈ type.fields) {v : Value}
    (hv : record.value? field.property.name = some v) :
    ∃ content, record.get? field.property.name = some content ∧
      v.toDatum = .ok (boundDatum v) ∧ ∀ (own : OwnTypes) (row : Row) (column : String),
        row.get? column = some (boundDatum v) →
          field.type.fetch own row column = .ok content := by
  obtain ⟨content, hget, hmem, hadmits⟩ := exists_get?
    (R := fun field content => field.type.admits content = true) hnames h field hfield
  obtain rfl : content.toValue = v := by
    rw [value?, hget] at hv
    exact Option.some.inj hv
  obtain ⟨d, hd, hfetch⟩ := FieldType.exists_fetch hadmits (hstorable _ hmem)
  rw [boundDatum_of_ok hd]
  exact ⟨content, hget, hd, hfetch⟩

/-- Each element of the first list has a partner. -/
theorem exists_mem_zip_of_forall₂ {α β : Type} {R : α → β → Prop} {as : List α} {bs : List β}
    (h : List.Forall₂ R as bs) {a : α} (ha : a ∈ as) : ∃ b, (a, b) ∈ as.zip bs ∧ R a b := by
  induction h with
  | nil => cases ha
  | @cons first b as bs hb _ ih =>
      rcases List.mem_cons.mp ha with rfl | ha
      · exact ⟨b, List.mem_cons_self, hb⟩
      · obtain ⟨other, hmem, hother⟩ := ih ha
        exact ⟨other, List.mem_cons_of_mem _ hmem, hother⟩

/-! ### Rows -/

/-- Each result belongs to the element in its place. -/
theorem forall₂_of_mapM_eq_ok {ε α β : Type} {f : α → Except ε β} {as : List α} {bs : List β}
    (h : as.mapM f = .ok bs) : List.Forall₂ (fun a b => f a = .ok b) as bs := by
  induction as generalizing bs with
  | nil =>
      obtain rfl := Except.ok.inj h
      exact .nil
  | cons a as ih =>
      rw [List.mapM_cons] at h
      obtain ⟨b, hb, h⟩ := exists_of_bind_eq_ok h
      obtain ⟨rest, hrest, h⟩ := exists_of_bind_eq_ok h
      obtain rfl := Except.ok.inj h
      exact .cons hb (ih hrest)

/-- A row from which every stored field is fetched is read. -/
theorem exists_fromRow {type : EntityType} {own : OwnTypes} {row : Row}
    {R : Field → FieldValue → Prop}
    (h : ∀ field ∈ type.fields, field.property.write = true → ∃ content,
      field.type.fetch own row field.property.column = .ok content ∧ R field content)
    (hinitial : ∀ field ∈ type.fields, field.property.write = false →
      R field (field.type.initial own)) :
    ∃ later, type.fromRow own row = .ok later ∧
      List.Forall₂ (fun field entry => entry.1 = field.property.name ∧ R field entry.2)
        type.fields later := by
  have hfetch : ∀ field ∈ type.fields, ∃ entry,
      EntityType.fetchField own row field = .ok entry ∧ entry.1 = field.property.name ∧
        R field entry.2 := by
    intro field hfield
    unfold EntityType.fetchField
    cases hwrite : field.property.write with
    | false => exact ⟨_, rfl, rfl, hinitial field hfield hwrite⟩
    | true =>
        obtain ⟨content, hfetch, hcontent⟩ := h field hfield hwrite
        refine ⟨(field.property.name, content), ?_, rfl, hcontent⟩
        rw [fetchColumn, hfetch]
        rfl
  obtain ⟨later, hlater⟩ := exists_mapM_eq_ok fun field hfield =>
    (hfetch field hfield).imp fun _ h => h.1
  refine ⟨later, hlater, ?_⟩
  refine List.forall₂_iff_zip.mpr ⟨(length_of_mapM_eq_ok hlater).symm, fun {field entry} hmem => ?_⟩
  obtain ⟨other, hother, hentry⟩ := hfetch field (List.of_mem_zip hmem).1
  have hsame := (List.forall₂_iff_zip.mp (forall₂_of_mapM_eq_ok hlater)).2 hmem
  obtain rfl := Except.ok.inj (hsame.symm.trans hother)
  exact hentry

/-! ### Columns -/

/-- The stored fields that an insert leaves to the database: generated keys and computed columns. -/
def Descriptor.leftOut (descriptor : Descriptor) (type : EntityType) : List Field :=
  type.fields.filter fun field =>
    field.property.write && (descriptor.isKey field.property || field.property.computed)

section Columns

variable {rule : TableRule} {type : EntityType}

/-- The columns of an insert and those that it leaves out are the stored columns. -/
theorem perm_columns : ((Descriptor.build rule type).insertable.map (·.column) ++
      ((Descriptor.build rule type).leftOut type).map (·.property.column)).Perm
    ((Descriptor.build rule type).properties.map (·.column)) := by
  have hleft : ((Descriptor.build rule type).leftOut type).map (·.property.column) =
      ((Descriptor.build rule type).properties.filter fun p =>
        !(!(Descriptor.build rule type).isKey p && !p.computed)).map (·.column) := by
    show _ = (((type.fields.map (·.property)).filter (·.write)).filter _).map _
    rw [List.filter_filter, List.filter_map, List.map_map, Descriptor.leftOut]
    refine congrArg (List.map _) (List.filter_congr fun field _ => ?_)
    rw [Function.comp_apply]
    cases field.property.write <;> cases (Descriptor.build rule type).isKey field.property <;>
      cases field.property.computed <;> rfl
  rw [hleft, Descriptor.insertable, ← List.map_append]
  exact (List.filter_append_perm _ _).map _

/-- What is stored and not inserted is left out. -/
theorem mem_leftOut {field : Field} (hfield : field ∈ type.fields)
    (hwrite : field.property.write = true)
    (hinsert : field.property ∉ (Descriptor.build rule type).insertable) :
    field ∈ (Descriptor.build rule type).leftOut type := by
  have hstored : field.property ∈ (Descriptor.build rule type).properties :=
    List.mem_filter.mpr ⟨List.mem_map_of_mem hfield, hwrite⟩
  have hkept : ¬ (!(Descriptor.build rule type).isKey field.property &&
      !field.property.computed) = true := fun h => hinsert (List.mem_filter.mpr ⟨hstored, h⟩)
  refine List.mem_filter.mpr ⟨hfield, ?_⟩
  rw [hwrite, Bool.true_and]
  revert hkept
  cases (Descriptor.build rule type).isKey field.property <;>
    cases field.property.computed <;> simp

end Columns

/-! ### Inserting and reading -/

section Reading

variable {rule : TableRule} {type : EntityType} {record : Record} {vs : List Value}

/-- A property that is inserted is that of a field. -/
theorem exists_field_of_mem_insertable {p : Property}
    (hp : p ∈ (Descriptor.build rule type).insertable) :
    ∃ field ∈ type.fields, field.property = p :=
  List.mem_map.mp (List.mem_filter.mp (List.mem_filter.mp hp).1).1

/-- What a typed entity has for the properties that are inserted can be bound. -/
theorem bindable_of_own (hrecord : record.Typed type)
    (hstorable : ∀ entry ∈ record, entry.2.Storable)
    (hnames : (type.fields.map (·.property.name)).Nodup)
    (hown : List.Forall₂ (fun p v => record.value? p.name = some v)
      (Descriptor.build rule type).insertable vs) : Bindable vs := by
  intro v hv
  obtain ⟨p, hmem, hp⟩ := exists_mem_zip_of_forall₂ hown.flip hv
  obtain ⟨field, hfield, rfl⟩ := exists_field_of_mem_insertable (List.of_mem_zip hmem).2
  obtain ⟨content, -, hbind, -⟩ := hrecord.fetch_value hstorable hnames hfield hp
  exact ⟨_, hbind⟩

/-- The columns of a row that was inserted, with what was left out, have different names. -/
theorem nodup_columns {written : List Datum} {extra : List (String × Datum)} {row : Row}
    (hcolumns : ((type.properties.filter (·.write)).map (·.column)).Nodup)
    (hlength : (Descriptor.build rule type).insertable.length = written.length)
    (hextra : extra.map (·.1) =
      ((Descriptor.build rule type).leftOut type).map (·.property.column))
    (hrow : row.fields.Perm
      (((Descriptor.build rule type).insertable.map (·.column)).zip written ++ extra)) :
    (row.fields.map (·.1)).Nodup := by
  rw [(hrow.map _).nodup_iff, List.map_append, hextra, List.map_fst_zip (by simp [hlength]),
    perm_columns.nodup_iff]
  exact hcolumns

/-- What is read for a field: the content that was inserted, or the initial one if the field is not
stored. -/
def ReadsBack (own : OwnTypes) (descriptor : Descriptor) (record : Record) (field : Field)
    (content : FieldValue) : Prop :=
  (field.property ∈ descriptor.insertable → record.get? field.property.name = some content) ∧
    (field.property.write = false → content = field.type.initial own)

/-- A row of what was inserted, with anything that fits in the other columns, is read as what it was
made from. -/
theorem exists_read (hrecord : record.Typed type) (hstorable : ∀ entry ∈ record, entry.2.Storable)
    (hnames : (type.fields.map (·.property.name)).Nodup)
    (hcolumns : ((type.properties.filter (·.write)).map (·.column)).Nodup)
    (hown : List.Forall₂ (fun p v => record.value? p.name = some v)
      (Descriptor.build rule type).insertable vs) {own : OwnTypes} {row : Row}
    {extra : List (String × Datum)}
    (hrow : row.fields.Perm
      (((Descriptor.build rule type).insertable.map (·.column)).zip (vs.map boundDatum) ++ extra))
    (hextra : List.Forall₂ (fun field entry => entry.1 = field.property.column ∧
      ∃ content, field.type.fetch own row field.property.column = .ok content)
      ((Descriptor.build rule type).leftOut type) extra) :
    ∃ later, type.fromRow own row = .ok later ∧
      List.Forall₂ (fun field entry => entry.1 = field.property.name ∧
        ReadsBack own (Descriptor.build rule type) record field entry.2) type.fields later := by
  have hrest : extra.map (·.1) =
      ((Descriptor.build rule type).leftOut type).map (·.property.column) := by
    clear hrow
    generalize (Descriptor.build rule type).leftOut type = fields at hextra
    induction hextra with
    | nil => rfl
    | cons hentry _ ih => exact congrArg₂ List.cons hentry.1 ih
  have hdistinct := nodup_columns hcolumns (by simp [hown.length_eq]) hrest hrow
  refine exists_fromRow (R := ReadsBack own (Descriptor.build rule type) record) ?_ ?_
  · intro field hfield hwrite
    by_cases hinsert : field.property ∈ (Descriptor.build rule type).insertable
    · -- the datum that was bound for the property
      obtain ⟨v, hmem, hv⟩ := exists_mem_zip_of_forall₂ hown hinsert
      obtain ⟨content, hget, -, hfetch⟩ := hrecord.fetch_value hstorable hnames hfield hv
      have hwritten : (field.property.column, boundDatum v) ∈
          ((Descriptor.build rule type).insertable.map (·.column)).zip (vs.map boundDatum) := by
        rw [List.zip_map]
        exact List.mem_map.mpr ⟨_, hmem, rfl⟩
      have hfound := hrow.mem_iff.mpr (List.mem_append_left extra hwritten)
      refine ⟨content, hfetch own row _ (Row.get?_of_mem hdistinct hfound), fun _ => hget,
        fun hunstored => ?_⟩
      rw [hwrite] at hunstored
      cases hunstored
    · -- a datum that fits
      obtain ⟨-, -, -, content, hfetch⟩ :=
        exists_mem_zip_of_forall₂ hextra (mem_leftOut hfield hwrite hinsert)
      refine ⟨content, hfetch, fun h => absurd h hinsert, fun hunstored => ?_⟩
      rw [hwrite] at hunstored
      cases hunstored
  · intro field hfield hwrite
    refine ⟨fun hinsert => ?_, fun _ => rfl⟩
    have hstored := (List.mem_filter.mp (List.mem_filter.mp hinsert).1).2
    rw [hwrite] at hstored
    cases hstored

end Reading

/-! ### What an insert sends -/

section Sending

variable {mapper : Mapper} {vs : List Value}

/-- A statement binds the values of an entity, or none. -/
def Carries (vs : List Value) (statement : Statement) : Prop :=
  statement.params = vs.map boundDatum ∨ statement.params = []

/-- The data of a query are those of its values. -/
theorem params_of_build {style : Style} {tokens : List Token} {query : Query}
    (h : Query.build style tokens = .ok query) :
    query.params = (values tokens).map boundDatum := by
  have hbuild := build_of_bindable style tokens (bindable_of_build h)
  rw [Except.ok.inj (h.symm.trans hbuild)]

theorem params_of_build_insert {style : Style} {insert : Insert} {returning : Returning}
    {query : Query} (h : Query.build style (insert.tokens returning) = .ok query)
    (hrows : insert.rows = [vs]) : query.params = vs.map boundDatum := by
  rw [params_of_build h, values_insert_returning, hrows]
  simp

/-- What an insert of one entity may send binds its row, or nothing. -/
theorem carries_of_maySend {connection : String} {type : EntityType} {record : Record}
    (hvs : type.valuesOf record (Descriptor.build mapper.tableRule type).insertable = .ok vs)
    {query : Query} (h : (Operation.insert connection type record).MaySend mapper query) :
    Carries vs (mapper.statement query) := by
  cases h with
  | built h hbuild =>
      cases h with
      | insert hrow _ =>
          obtain rfl := Except.ok.inj (hrow.symm.trans hvs)
          exact .inl (params_of_build_insert hbuild rfl)
  | appended h hbuild _ =>
      cases h with
      | insert hrow _ =>
          obtain rfl := Except.ok.inj (hrow.symm.trans hvs)
          exact .inl (params_of_build_insert hbuild rfl)
  | alone _ => exact .inr rfl

end Sending

/-- **What is inserted is read back.**  Take an entity of a declared type (`Record.Typed`) with
storable contents (`FieldValue.Storable`), whose stored columns have different names.  Its insert
(`Mapper.insertOf`) is one row of as many values as there are columns.  A row of the table that has
these values in these columns, in whatever order, and anything that fits in the columns that the
insert leaves out (`Descriptor.leftOut`), is read by `EntityType.fromRow` as an entity with the same
contents for all properties that were inserted, and with initial contents for those that are not
stored.  The statements that `Mapper.insert` sends bind these values, or none. -/
theorem inserted_read_back {declaration : Declaration} {model : Model} {type : EntityType}
    (hmodel : declaration.model = .ok model)
    (hnames : (declaration.fields.map fun field => Declaration.plainName field.name).Nodup)
    (htype : model.Describes type)
    (hcolumns : ((type.properties.filter (·.write)).map (·.column)).Nodup)
    {record : Record} (hrecord : record.Typed type)
    (hstorable : ∀ entry ∈ record, entry.2.Storable)
    (mapper : Mapper) (dialect : Dialect) (returning : Returning) :
    let descriptor := Descriptor.build mapper.tableRule type
    ∃ vs query, type.valuesOf record descriptor.insertable = .ok vs ∧
      let insert := Mapper.insertOf descriptor dialect [vs]
      insert.check = .ok insert ∧
      Query.build dialect.style (insert.tokens returning) = .ok query ∧
      insert.columns.length = query.params.length ∧
      (∀ (connection : String) (cache : Cache), cache.Valid mapper →
        (mapper.insert connection type record).Always cache fun sent _ _ =>
          ∀ call ∈ sent, ∀ statement, call.statement? = some statement →
            statement.params = query.params ∨ statement.params = []) ∧
      ∀ (row : Row) (extra : List (String × Datum)),
        row.fields.Perm ((insert.columns.map (·.name)).zip query.params ++ extra) →
        List.Forall₂ (fun field entry => entry.1 = field.property.column ∧
          ∃ content, field.type.fetch mapper.own row field.property.column = .ok content)
          (descriptor.leftOut type) extra →
        ∃ later, type.fromRow mapper.own row = .ok later ∧
          (∀ p ∈ descriptor.insertable, ∃ content,
            record.get? p.name = some content ∧ later.get? p.name = some content) ∧
          ∀ field ∈ type.fields, field.property.write = false →
            later.get? field.property.name = some (field.type.initial mapper.own) := by
  intro descriptor
  obtain ⟨vs, hvs, hown⟩ := htype.exists_valuesOf hmodel hnames
    hrecord.complete (.insertable : descriptor.Asks descriptor.insertable)
  have hfields : (type.fields.map (·.property.name)).Nodup := by
    rw [← Declaration.map_name_of_model hmodel, ← htype.properties, EntityType.properties,
      List.map_map] at hnames
    exact hnames
  have hlength : descriptor.insertable.length = vs.length := hown.length_eq
  have hvalues : values ((Mapper.insertOf descriptor dialect [vs]).tokens returning) = vs := by
    rw [values_insert_returning]
    simp [Mapper.insertOf]
  have hbuild := build_of_bindable dialect.style
    ((Mapper.insertOf descriptor dialect [vs]).tokens returning)
    (by rw [hvalues]; exact bindable_of_own hrecord hstorable hfields hown)
  rw [hvalues] at hbuild
  refine ⟨vs, _, hvs, ?_, hbuild, by simp [Mapper.insertOf, hlength], ?_, ?_⟩
  · simp [Insert.check, Mapper.insertOf, hlength]
  · intro connection cache hcache
    have hensured := (Operation.insert connection type record).ensures mapper cache hcache
    refine hensured.mono fun sent _ _ h call hcall statement hstatement => ?_
    obtain ⟨query, hquery, rfl⟩ := h.2.1 call hcall statement hstatement
    exact carries_of_maySend hvs hquery
  · intro row extra hrow hextra
    have hwritten : (Mapper.insertOf descriptor dialect [vs]).columns.map (·.name) =
        descriptor.insertable.map (·.column) := by
      simp [Mapper.insertOf, Function.comp_def]
    rw [hwritten] at hrow
    obtain ⟨later, hlater, hall⟩ :=
      exists_read hrecord hstorable hfields hcolumns hown hrow hextra
    have hget := exists_get? (R := ReadsBack mapper.own descriptor record) hfields hall
    refine ⟨later, hlater, fun p hp => ?_, fun field hfield hwrite => ?_⟩
    · obtain ⟨field, hfield, rfl⟩ := exists_field_of_mem_insertable hp
      obtain ⟨content, hcontent, -, hsame, -⟩ := hget field hfield
      exact ⟨content, hsame hp, hcontent⟩
    · obtain ⟨content, hcontent, -, -, hinitial⟩ := hget field hfield
      rw [hcontent, hinitial hwrite]

/-! ### A reading -/

namespace Sample

/-- A reading of an instrument: a number that the database gives it, when it was taken, a level that
may be missing, a sum that the database computes, and a mark that is not stored. -/
def reading : Declaration :=
  ⟨.struct, "Reading", [],
    [⟨"id", "i64", []⟩, ⟨"taken", "DateTime<Utc>", []⟩,
      ⟨"level", "Option<f64>", [.markers [("column", some (.text "Level"))]]⟩,
      ⟨"sum", "u32", [.markers [("computed", none)]]⟩,
      ⟨"draft", "bool", [.markers [("write", some (.bool false))]]⟩]⟩

/-- The model of readings. -/
def readingModel : Model :=
  ⟨"Reading", none, none, false,
    [⟨"id", "id", "i64", false, false, false, false, true⟩,
      ⟨"taken", "taken", "DateTime<Utc>", false, false, false, false, true⟩,
      ⟨"level", "Level", "Option<f64>", false, false, false, false, true⟩,
      ⟨"sum", "sum", "u32", false, false, true, false, true⟩,
      ⟨"draft", "draft", "bool", false, false, false, false, false⟩]⟩

theorem model_reading : reading.model = .ok readingModel := by
  decide +kernel

/-- The type of readings. -/
def readingType : EntityType :=
  ⟨"Reading", none, none, false,
    readingModel.properties.zipWith Field.mk
      [.required .int64, .required .instant, .optional .double, .required .uint32,
        .required .bool],
    ["id", "taken", "level", "sum"]⟩

theorem ofModel?_readingModel : EntityType.ofModel? readingModel = some readingType := by
  decide +kernel

/-- Half a second into the leap second at the end of 2016. -/
def leap : DateTime := ⟨⟨2016, 12, 31, by decide⟩, ⟨23, 59, 59, 1500000000, by decide⟩⟩

/-- A reading that was taken in a leap second, and has no level. -/
def leapReading : Record :=
  [("id", .present (.int64 0)), ("taken", .present (.instant leap)), ("level", .absent .double),
    ("sum", .present (.uint32 0)), ("draft", .present (.bool true))]

/-- The row of that reading, as a table with its columns in another order has it. -/
def leapRow : Row :=
  ⟨"0", [("sum", .int64 (some 12)), ("Level", .double none), ("id", .int64 (some 4)),
    ("taken", .timestamp (some "2016-12-31T23:59:60.500+00:00"))]⟩

end Sample

/-- A reading that was taken in a leap second is inserted, and its row is read. -/
theorem inserted_read_back_reading :
    ∃ later, Sample.readingType.fromRow .unknown Sample.leapRow = .ok later ∧
      later.get? "taken" = some (.present (.instant Sample.leap)) ∧
      later.get? "level" = some (.absent .double) ∧
      later.get? "draft" = some (.present (.bool false)) := by
  have htyped : Sample.leapReading.Typed Sample.readingType :=
    .cons ⟨rfl, rfl⟩ (.cons ⟨rfl, rfl⟩ (.cons ⟨rfl, rfl⟩ (.cons ⟨rfl, rfl⟩ (.cons ⟨rfl, rfl⟩ .nil))))
  have hstorable : ∀ entry ∈ Sample.leapReading, entry.2.Storable := by
    simp [Sample.leapReading, FieldValue.Storable, Scalar.Storable, Sample.leap]
  obtain ⟨vs, query, hvs, -, hbuild, -, -, hread⟩ := inserted_read_back Sample.model_reading
    (by decide) (Model.describes_of_ofModel? Sample.ofModel?_readingModel) (by decide) htyped
    hstorable .standard .postgres .nothing
  obtain rfl : vs = [.instant (some Sample.leap), .double none] := Except.ok.inj hvs.symm
  have hparams : query.params =
      [.timestamp (some "2016-12-31T23:59:60.500+00:00"), .double none] :=
    (params_of_build_insert hbuild rfl).trans (by decide)
  rw [hparams] at hread
  obtain ⟨later, hlater, hinserted, hinitial⟩ := hread Sample.leapRow
    [("id", .int64 (some 4)), ("sum", .int64 (some 12))] (by decide)
    (.cons ⟨rfl, _, rfl⟩ (.cons ⟨rfl, _, rfl⟩ .nil))
  obtain ⟨taken, htaken, hread⟩ := hinserted
    ⟨"taken", "taken", "DateTime<Utc>", false, false, false, false, true⟩ (by decide)
  obtain ⟨level, hlevel, hread'⟩ := hinserted
    ⟨"level", "Level", "Option<f64>", false, false, false, false, true⟩ (by decide)
  refine ⟨later, hlater, hread.trans htaken.symm, hread'.trans hlevel.symm, ?_⟩
  exact hinitial ⟨⟨"draft", "draft", "bool", false, false, false, false, false⟩, .required .bool⟩
    (by decide) rfl

end RowMapper
