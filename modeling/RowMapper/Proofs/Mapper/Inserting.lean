import RowMapper.Proofs.Mapper.Addressing
import RowMapper.Proofs.Mapper.Storing
import RowMapper.Proofs.Sql.InsertText

/-!
# A slice is inserted row by row

Several entities are inserted by one statement, which has their values one entity after the other.

* `Record.Gives` — the data of an entity for some properties;
* `exists_rows` — the rows of the statement, one for each entity;
* `build_insertOf` — its text and its data;
* `always_insertMany` — that it is sent;
* `rows_inserted` — the insert of several entities of a declared type.

### Entities without columns

The list of columns is that of the type and the rows are those of the entities.  Both are taken from
the same properties, so that they fit (`Insert.check` never fails).  For a type with nothing to be
inserted, such as one with a generated key only, the rows are empty: then none of them is written.
-/

namespace RowMapper

open Sql

/-- An entity has some data for some properties: what its values are bound as. -/
def Record.Gives (properties : List Property) (record : Record) (row : List Datum) : Prop :=
  List.Forall₂ (fun p d => ∃ v, record.value? p.name = some v ∧ v.toDatum = .ok d) properties row

namespace Record

variable {record : Record} {properties : List Property}

/-- The data of an entity are determined by its values. -/
theorem Gives.unique {row other : List Datum} (h : record.Gives properties row)
    (hother : record.Gives properties other) : row = other := by
  refine List.right_unique_forall₂' (fun p d d' hd hd' => ?_) h hother
  obtain ⟨v, hv, hd⟩ := hd
  obtain ⟨v', hv', hd'⟩ := hd'
  obtain rfl := Option.some.inj (hv.symm.trans hv')
  exact Except.ok.inj (hd.symm.trans hd')

/-- An entity with data has values that can be bound. -/
theorem Gives.binds {row : List Datum} (h : record.Gives properties row) :
    record.Binds properties := by
  intro p hp v hv
  obtain ⟨d, -, v', hv', hd⟩ := exists_mem_zip_of_forall₂ h hp
  obtain rfl := Option.some.inj (hv.symm.trans hv')
  exact ⟨d, hd⟩

theorem Binds.gives {vs : List Value} (hbinds : record.Binds properties)
    (hvalues : List.Forall₂ (fun p v => record.value? p.name = some v) properties vs) :
    record.Gives properties (vs.map boundDatum) := by
  induction hvalues with
  | nil => exact .nil
  | @cons p v properties vs hv _ ih =>
      obtain ⟨d, hd⟩ := hbinds p List.mem_cons_self v hv
      refine .cons ⟨v, hv, ?_⟩ (ih fun q hq => hbinds q (List.mem_cons_of_mem p hq))
      rw [boundDatum_of_ok hd]
      exact hd

end Record

/-- The rows that are taken from entities: each has a value for every property, in the order of
the entities. -/
theorem exists_rows {type : EntityType} {properties : List Property} {records : List Record}
    (hbinds : ∀ record ∈ records, record.Binds properties)
    (hvalues : ∀ record ∈ records, ∃ vs, type.valuesOf record properties = .ok vs ∧
      List.Forall₂ (fun p v => record.value? p.name = some v) properties vs) :
    ∃ rows, (records.mapM fun record => type.valuesOf record properties) = .ok rows ∧
      rows.length = records.length ∧ (∀ row ∈ rows, row.length = properties.length) ∧
      Bindable rows.flatten ∧
      List.Forall₂ (Record.Gives properties) records (rows.map (·.map boundDatum)) := by
  obtain ⟨rows, hrows⟩ := exists_mapM_eq_ok fun record hrecord =>
    (hvalues record hrecord).imp fun _ h => h.1
  have hown : ∀ record ∈ records, ∀ row, type.valuesOf record properties = .ok row →
      List.Forall₂ (fun p v => record.value? p.name = some v) properties row := by
    intro record hrecord row hrow
    obtain ⟨vs, hvs, hown⟩ := hvalues record hrecord
    obtain rfl := Except.ok.inj (hrow.symm.trans hvs)
    exact hown
  refine ⟨rows, hrows, length_of_mapM_eq_ok hrows, fun row hrow => ?_, fun v hv => ?_, ?_⟩
  · obtain ⟨record, -, hrecord⟩ := (mem_of_mapM_eq_ok hrows).1 row hrow
    exact length_of_takeValues hrecord
  · obtain ⟨row, hrow, hv⟩ := List.mem_flatten.mp hv
    obtain ⟨record, hmem, hrecord⟩ := (mem_of_mapM_eq_ok hrows).1 row hrow
    exact (hbinds record hmem).bindable (hown record hmem row hrecord) v hv
  · rw [List.forall₂_map_right_iff]
    refine List.forall₂_iff_zip.mpr ⟨(length_of_mapM_eq_ok hrows).symm, fun {record row} hmem => ?_⟩
    have hrow := (List.forall₂_iff_zip.mp (forall₂_of_mapM_eq_ok hrows)).2 hmem
    have hrecord := (List.of_mem_zip hmem).1
    exact (hbinds record hrecord).gives (hown record hrecord row hrow)

/-! ### The statement -/

section Statement

variable {dialect : Dialect} {descriptor : Descriptor} {rows : List (List Value)}

/-- Rows with a value for each property that is inserted fit the columns. -/
theorem check_insertOf (hfit : ∀ row ∈ rows, row.length = descriptor.insertable.length) :
    (Mapper.insertOf descriptor dialect rows).check =
      .ok (Mapper.insertOf descriptor dialect rows) := by
  have hnone : rows.find? (fun row =>
      row.length != (Mapper.insertOf descriptor dialect rows).columns.length) = none := by
    rw [List.find?_eq_none]
    intro row hrow
    simpa [Mapper.insertOf] using hfit row hrow
  unfold Insert.check
  rw [show (Mapper.insertOf descriptor dialect rows).rows = rows from rfl, hnone]

/-- The text of the insert of rows, and its data. -/
theorem build_insertOf (hne : rows ≠ [])
    (hfit : ∀ row ∈ rows, row.length = descriptor.insertable.length)
    (hbindable : Bindable rows.flatten) :
    Query.build dialect.style ((Mapper.insertOf descriptor dialect rows).tokens .nothing) =
      .ok ⟨dialect.style.insertText descriptor.table
          (descriptor.insertable.map fun p => dialect.columnText p.column) rows.length,
        rows.flatten.map boundDatum⟩ := by
  have hvalues := values_insert (Mapper.insertOf descriptor dialect rows)
  have htext : dialect.style.write ((Mapper.insertOf descriptor dialect rows).tokens .nothing) =
      dialect.style.insertText descriptor.table
        ((descriptor.insertable.map fun p => dialect.column p.column).map fun column =>
          String.ofList (column.write dialect.style.marks)) rows.length := by
    refine write_insert dialect.style hne fun row hrow => ?_
    rw [hfit row hrow]
    exact (List.length_map _).symm
  rw [List.map_map] at htext
  rw [build_of_bindable _ _ (by rw [hvalues]; exact hbindable), hvalues, htext]
  rfl

end Statement

/-! ### What is sent -/

namespace Action

variable {mapper : Mapper} {cache : Cache} {type : EntityType} {records : List Record}

/-- A statement whose rows and text are there is sent, if the connection is open or can be
opened. -/
theorem always_insertMany (hc : cache.Valid mapper) (connection : String) (hne : records ≠ [])
    {rows : List (List Value)} {query : Query}
    (hrows : (records.mapM fun record =>
      type.valuesOf record (Descriptor.build mapper.tableRule type).insertable) = .ok rows)
    (hfit : ∀ row ∈ rows,
      row.length = (Descriptor.build mapper.tableRule type).insertable.length)
    (hbuild : Query.build (mapper.dialectFor connection).style
      ((Mapper.insertOf (Descriptor.build mapper.tableRule type) (mapper.dialectFor connection)
        rows).tokens .nothing) = .ok query) :
    (mapper.insertMany connection type records).Always cache fun sent result _ =>
      sent.filterMap Call.statement? = [mapper.statement query] ∨
        ∃ message, sent = [.isOpen, .openUp] ∧ result = .error (.database message) := by
  refine always_describe_bind hc fun cache' => ?_
  obtain ⟨first, rest, rfl⟩ := List.exists_cons_of_ne_nil hne
  refine (always_whileOpen (P := fun sent _ _ =>
    sent = [.exec (mapper.statement query)]) ?_).mono fun sent result later h => ?_
  · rw [mapM_lift, hrows, lift_ok_bind, check_insertOf hfit, lift_ok_bind, hbuild, lift_ok_bind]
    intro (answer : Except String UInt64)
    cases answer <;> rfl
  · obtain ⟨inner, rfl, rfl | rfl⟩ | ⟨message, hsent, hresult, -⟩ := h
    · exact .inl rfl
    · exact .inl rfl
    · exact .inr ⟨message, hsent, hresult⟩

end Action

/-- **A slice is inserted row by row, if there is anything to insert.**  Take complete entities of a
declared type whose values can be bound (`Record.Binds`).  `Mapper.insertMany` sends one statement
for all of them, unless the connection could not be opened.  Its data are those of the first entity,
then those of the second, and so on, each in the order of the columns (`Record.Gives`).  Its text
(`Style.insertText`) has a list of placeholders for each entity, with a placeholder for each column,
if there are any columns.  Otherwise it ends after the empty list of columns, and none of the
entities is inserted. -/
theorem rows_inserted {declaration : Declaration} {model : Model} {type : EntityType}
    (hmodel : declaration.model = .ok model)
    (hnames : (declaration.fields.map fun field => Declaration.plainName field.name).Nodup)
    (htype : model.Describes type) (mapper : Mapper) (connection : String)
    {records : List Record} (hne : records ≠ [])
    (hrecords : ∀ record ∈ records, record.Complete type)
    (hbinds : ∀ record ∈ records,
      record.Binds (Descriptor.build mapper.tableRule type).insertable) :
    let descriptor := Descriptor.build mapper.tableRule type
    let dialect := mapper.dialectFor connection
    ∃ query : Query,
      (∀ cache : Cache, cache.Valid mapper →
        (mapper.insertMany connection type records).Always cache fun sent result _ =>
          sent.filterMap Call.statement? = [mapper.statement query] ∨
            ∃ message, sent = [.isOpen, .openUp] ∧ result = .error (.database message)) ∧
      query.sql = dialect.style.insertText descriptor.table
        (descriptor.insertable.map fun p => dialect.columnText p.column) records.length ∧
      ∃ rows : List (List Datum), List.Forall₂ (Record.Gives descriptor.insertable) records rows ∧
        query.params = rows.flatten := by
  intro descriptor dialect
  obtain ⟨rows, hrows, hlength, hfit, hbindable, hgives⟩ := exists_rows hbinds fun record hrecord =>
    htype.exists_valuesOf hmodel hnames (hrecords record hrecord)
      (.insertable : descriptor.Asks descriptor.insertable)
  have hrows_ne : rows ≠ [] := by
    rintro rfl
    exact hne (List.length_eq_zero_iff.mp hlength.symm)
  refine ⟨⟨dialect.style.insertText _ _ rows.length, rows.flatten.map boundDatum⟩,
    fun cache hc => ?_, by rw [hlength], _, hgives, List.map_flatten⟩
  exact Action.always_insertMany hc connection hne hrows hfit
    (build_insertOf hrows_ne hfit hbindable)

namespace Sample

/-- A widget has a number that the database gives it, and nothing else. -/
def widget : Declaration := ⟨.struct, "Widget", [], [⟨"id", "i64", []⟩]⟩

/-- The model of widgets. -/
def widgetModel : Model :=
  ⟨"Widget", none, none, false, [⟨"id", "id", "i64", false, false, false, false, true⟩]⟩

/-- The type of widgets. -/
def widgetType : EntityType :=
  ⟨"Widget", none, none, false, widgetModel.properties.zipWith Field.mk [.required .int64], ["id"]⟩

/-- A widget of a number. -/
def widgetOf (id : Int64) : Record := [("id", .present (.int64 id))]

end Sample

/-- Two accounts are inserted over PostgreSQL, each with its owner and without a day.  What they
have in the text that is not stored cannot be bound, and need not be. -/
theorem rows_inserted_accounts :
    ∃ query : Query,
      (Mapper.standard.insertMany "PostgresConnection" Sample.accountType
          [Sample.accountOf "ann", Sample.accountOf "bob"]).Always .empty (fun sent result _ =>
        sent.filterMap Call.statement? = [Mapper.standard.statement query] ∨
          ∃ message, sent = [.isOpen, .openUp] ∧ result = .error (.database message)) ∧
      query.sql = "INSERT INTO accounts (\"owner\", \"opened\") VALUES ($1, $2), ($3, $4)" ∧
      query.params = [.str (some "ann"), .date none, .str (some "bob"), .date none] := by
  have hgives : List.Forall₂
      (Record.Gives (Descriptor.build pluralTable Sample.accountType).insertable)
      [Sample.accountOf "ann", Sample.accountOf "bob"]
      [[.str (some "ann"), .date none], [.str (some "bob"), .date none]] :=
    .cons (.cons ⟨_, rfl, rfl⟩ (.cons ⟨_, rfl, rfl⟩ .nil))
      (.cons (.cons ⟨_, rfl, rfl⟩ (.cons ⟨_, rfl, rfl⟩ .nil)) .nil)
  have hcomplete : ∀ record ∈ [Sample.accountOf "ann", Sample.accountOf "bob"],
      record.Complete Sample.accountType := by
    intro record hrecord
    simp only [List.mem_cons, List.not_mem_nil, or_false] at hrecord
    rcases hrecord with rfl | rfl <;> rfl
  obtain ⟨query, halways, hsql, rows, hrows, hparams⟩ := rows_inserted Sample.model_account
    (by decide) (Model.describes_of_ofModel? Sample.ofModel?_accountModel) .standard
    "PostgresConnection" (List.cons_ne_nil _ _) hcomplete fun record hrecord => by
      obtain ⟨row, -, hrow⟩ := exists_mem_zip_of_forall₂ hgives hrecord
      exact hrow.binds
  have hunique : Relator.RightUnique
      (Record.Gives (Descriptor.build pluralTable Sample.accountType).insertable) :=
    fun _ _ _ h hother => h.unique hother
  obtain rfl := List.right_unique_forall₂' hunique hrows hgives
  exact ⟨query, halways .empty Cache.valid_empty, hsql.trans (by decide +kernel), hparams⟩

/-- **Two widgets are inserted by a statement without them.**  They can be bound, for there is
nothing to bind.  The statement that is sent has no list of placeholders, and so neither of them is
inserted. -/
theorem widgets_dropped :
    Sample.widget.model = .ok Sample.widgetModel ∧
      Sample.widgetModel.Describes Sample.widgetType ∧
      (∀ record ∈ [Sample.widgetOf 1, Sample.widgetOf 2], record.Complete Sample.widgetType ∧
        record.Binds (Descriptor.build pluralTable Sample.widgetType).insertable) ∧
      (((Mapper.standard.insertMany "SqliteConnection" Sample.widgetType
          [Sample.widgetOf 1, Sample.widgetOf 2]).dialogue .empty).transcript Recording.answer
            (Recording.start "SqliteConnection" true)).1.filterMap Call.statement? =
        [⟨"INSERT INTO Widgets ()", [], none⟩] ∧
      ∀ head rows : String, "INSERT INTO Widgets ()" ≠ head ++ " VALUES " ++ rows := by
  refine ⟨by decide +kernel, Model.describes_of_ofModel? (by decide +kernel), ?_,
    by decide +kernel, ?_⟩
  · intro record hrecord
    have hnone : record.Gives (Descriptor.build pluralTable Sample.widgetType).insertable [] := .nil
    simp only [List.mem_cons, List.not_mem_nil, or_false] at hrecord
    rcases hrecord with rfl | rfl <;> exact ⟨rfl, hnone.binds⟩
  · intro head rows h
    have hmem : 'V' ∈ "INSERT INTO Widgets ()".toList := by
      rw [h]
      simp
    revert hmem
    decide

end RowMapper
