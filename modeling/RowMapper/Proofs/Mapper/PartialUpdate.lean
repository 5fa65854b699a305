import RowMapper.Proofs.Mapper.Addressing

/-!
# The update of a tracked entity is part of the whole update

An update of an entity writes all columns that can be written, with a text that may be kept from an
earlier one.  The update of a tracked entity writes those that changed, with a text of its own.
They differ in nothing else.

* `Mapper.writing` — the update that writes some columns of the row of an entity;
* `Mapper.updateOf_eq_writing` — how its values are found by their places in one list;
* `TrackedAction.Tracks.calls_eq` — it makes the calls of an update with the same statement;
* `tracked_update_restricted` — the two updates side by side.

### Values by place

The values of both lists are taken out of what the entity lays out, one list after the other, and
the statement tells them apart by their number.  The entity has one value for each property
(`exists_content`), so the part of a list has the values that it had in the whole.
-/

namespace RowMapper

open Sql

/-! ### The update that writes some columns -/

namespace Mapper

variable (dialect : Dialect) (descriptor : Descriptor) (content : Property → Value)
  (columns : List Property)

/-- The update that writes some columns of the rows that have the values of the keys. -/
def writing : Update where
  table := descriptor.table
  assignments := columns.map fun p => (dialect.column p.column, content p)
  filters := descriptor.allKeys.map fun key =>
    .compare (dialect.column key.column) .eq (content key)

/-- The values of columns and keys, one list behind the other, are told apart by their number. -/
theorem updateOf_eq_writing :
    updateOf dialect descriptor.table columns descriptor.allKeys
        (columns.map content ++ descriptor.allKeys.map content) =
      writing dialect descriptor content columns := by
  have hassignments : (columns.map fun p => dialect.column p.column).zip
      (columns.map content ++ descriptor.allKeys.map content) =
        columns.map fun p => (dialect.column p.column, content p) := by
    rw [zip_append_of_length (by simp), List.zip_map']
  rw [updateOf, writing, hassignments, List.drop_left' (List.length_map _), matching,
    List.zip_map', List.map_map]
  rfl

theorem values_writing :
    Sql.values (writing dialect descriptor content columns).tokens =
      (columns ++ descriptor.allKeys).map content := by
  -- a text with any columns has the places of its values, whether or not it is kept
  have hvalues := (Template.update dialect descriptor.table columns
    descriptor.allKeys).values_tokens (columns.map content ++ descriptor.allKeys.map content)
      (by simp [Template.update])
  rw [List.map_append, ← hvalues, ← updateOf_eq_writing]
  rfl

end Mapper

/-- Values that belong to properties are what the properties have. -/
theorem eq_map_of_forall₂ {record : Record} {content : Property → Value}
    {properties : List Property} {vs : List Value}
    (hvalues : List.Forall₂ (fun p v => record.value? p.name = some v) properties vs)
    (hcontent : ∀ p ∈ properties, record.value? p.name = some (content p)) :
    vs = properties.map content := by
  induction hvalues with
  | nil => rfl
  | @cons p v properties vs hv _ ih =>
      have hp := hcontent p List.mem_cons_self
      rw [List.map_cons, Option.some.inj (hv.symm.trans hp),
        ih fun q hq => hcontent q (List.mem_cons_of_mem p hq)]

/-- An entity has one value for each property that is stored. -/
theorem exists_content {type : EntityType} {record : Record} (rule : TableRule)
    (hrecord : record.Complete type) :
    ∃ content : Property → Value, ∀ p ∈ (Descriptor.build rule type).properties,
      record.value? p.name = some (content p) := by
  refine ⟨fun p => (record.value? p.name).getD (.bool none), fun p hp => ?_⟩
  obtain ⟨v, hv⟩ := hrecord.exists_value (List.mem_filter.mp hp).1
  dsimp only
  rw [hv, Option.getD_some]

/-- The statement that writes some columns has the values of the columns, and then those of the
keys. -/
theorem build_writing {type : EntityType} {record : Record} {rule : TableRule} (dialect : Dialect)
    {content : Property → Value} {columns : List Property}
    (hcontent : ∀ p ∈ (Descriptor.build rule type).properties,
      record.value? p.name = some (content p))
    (hbinds : record.Binds (Descriptor.build rule type).properties)
    (hcolumns : columns.Sublist (Descriptor.build rule type).updatable) :
    let tokens := (Mapper.writing dialect (Descriptor.build rule type) content columns).tokens
    Query.build dialect.style tokens = .ok ⟨dialect.style.write tokens,
      (columns ++ (Descriptor.build rule type).allKeys).map fun p => boundDatum (content p)⟩ := by
  intro tokens
  have hvalues : Sql.values tokens =
      (columns ++ (Descriptor.build rule type).allKeys).map content :=
    Mapper.values_writing dialect (Descriptor.build rule type) content columns
  have hbindable : Bindable (Sql.values tokens) := by
    rw [hvalues]
    intro v hv
    obtain ⟨p, hp, rfl⟩ := List.mem_map.mp hv
    have hstored : p ∈ (Descriptor.build rule type).properties := by
      rcases List.mem_append.mp hp with hp | hp
      · exact (List.mem_filter.mp (hcolumns.mem hp)).1
      · exact mem_properties_of_mem_allKeys hp
    exact hbinds p hstored _ (hcontent p hstored)
  rw [build_of_bindable _ _ hbindable, hvalues, List.map_map]
  rfl

/-! ### The statement of an update -/

/-- The same calls are made for the update of an entity and for that of a tracked entity with the
same statement. -/
theorem TrackedAction.Tracks.calls_eq {mapper : Mapper} {tracks : TrackedAction Bool}
    {tracked : Tracked} {whole : Action Bool} {query? : Except Error (Option Query)}
    (htracks : Tracks mapper tracks tracked query?) (hwhole : Action.Sends mapper whole query?)
    {cache cache' : Cache} (hc : cache.Valid mapper) (hc' : cache'.Valid mapper) {σ : Type}
    (answer : (c : Call) → σ → c.Answer × σ) (s : σ) :
    ((tracks.dialogue tracked cache).transcript answer s).1 =
      ((whole.dialogue cache').transcript answer s).1 := by
  obtain ⟨_, -, hdialogue⟩ := htracks cache hc
  obtain ⟨_, -, hdialogue'⟩ := hwhole cache' hc'
  rw [hdialogue, hdialogue']
  cases query? with
  | error e => rfl
  | ok query? => cases query? <;> rfl

namespace Mapper

variable {mapper : Mapper} {connection : String} {type : EntityType} {record : Record}
  {only : Option (List String)}

/-- Without a property to write there is no statement, and an error if there can be none. -/
theorem updateQuery?_of_nil (hkeyed : (Descriptor.build mapper.tableRule type).allKeys ≠ [])
    (hnil : writtenProperties (Descriptor.build mapper.tableRule type) only = []) :
    mapper.updateQuery? connection type record only =
      if (Descriptor.build mapper.tableRule type).updatable = [] then
        .error (.invalidOperation (.nothingToUpdate type.name))
      else .ok none := by
  unfold updateQuery?
  dsimp only
  rw [Descriptor.requireKeys_eq_ok hkeyed]
  by_cases hupdatable : (Descriptor.build mapper.tableRule type).updatable = []
  · rw [if_pos hupdatable, hupdatable]
    rfl
  · rw [if_neg hupdatable]
    show (if _ then _ else _) = _
    rw [if_neg (by simpa using hupdatable), hnil]
    rfl

end Mapper

/-- The statement of an update writes its columns. -/
theorem updateQuery?_eq_writing {declaration : Declaration} {model : Model} {type : EntityType}
    (hmodel : declaration.model = .ok model)
    (hnames : (declaration.fields.map fun field => Declaration.plainName field.name).Nodup)
    (htype : model.Describes type) {mapper : Mapper} {record : Record}
    {content : Property → Value}
    (hkeyed : (Descriptor.build mapper.tableRule type).allKeys ≠ [])
    (hrecord : record.Complete type)
    (hcontent : ∀ p ∈ (Descriptor.build mapper.tableRule type).properties,
      record.value? p.name = some (content p))
    (connection : String) (only : Option (List String))
    (hne : Mapper.writtenProperties (Descriptor.build mapper.tableRule type) only ≠ []) :
    mapper.updateQuery? connection type record only =
      some <$> Query.build (mapper.dialectFor connection).style
        (Mapper.writing (mapper.dialectFor connection) (Descriptor.build mapper.tableRule type)
          content (Mapper.writtenProperties (Descriptor.build mapper.tableRule type)
            only)).tokens := by
  have hcolumns : (Descriptor.build mapper.tableRule type).Asks
      (Mapper.writtenProperties (Descriptor.build mapper.tableRule type) only) :=
    .updatable (sublist_writtenProperties _ only)
  have hkeys : (Descriptor.build mapper.tableRule type).Asks
      (Descriptor.build mapper.tableRule type).allKeys := .allKeys
  obtain ⟨assigned, hassigned, hvalues⟩ := htype.exists_valuesOf hmodel hnames hrecord hcolumns
  obtain ⟨identifying, hidentifying, hvalues'⟩ := htype.exists_valuesOf hmodel hnames hrecord hkeys
  rw [Mapper.updateQuery?_of_values (Descriptor.requireKeys_eq_ok hkeyed "update") hne hassigned
      hidentifying,
    eq_map_of_forall₂ hvalues fun p hp => hcontent p (hcolumns.stored p hp),
    eq_map_of_forall₂ hvalues' fun p hp => hcontent p (hkeys.stored p hp),
    Mapper.updateOf_eq_writing]

/-- **The update of a tracked entity is the whole update, restricted to what changed.**  Take a
complete entity of a declared type with a key, some of whose properties changed (`Dirty.fields`).
If some of these can be written, the update sends one statement (`TrackedAction.Tracks`), whatever
texts are kept.  It is `Mapper.writing` for exactly these, in the order of the declaration, with the
values of the entity, and finds the row by the conditions of the whole update with the same values.
If all that can be written changed, the same calls are made as by the whole update.  If nothing of
it changed, nothing is sent: no row was found then, or there is an error if nothing can be written
at all. -/
theorem tracked_update_restricted {declaration : Declaration} {model : Model} {type : EntityType}
    (hmodel : declaration.model = .ok model)
    (hnames : (declaration.fields.map fun field => Declaration.plainName field.name).Nodup)
    (htype : model.Describes type) (mapper : Mapper) (connection : String)
    (hkeyed : (Descriptor.build mapper.tableRule type).allKeys ≠ []) {record : Record}
    (hrecord : record.Complete type) (names : List String) :
    let descriptor := Descriptor.build mapper.tableRule type
    let dialect := mapper.dialectFor connection
    let changed := descriptor.updatable.filter fun p => names.contains p.name
    let tracked : Tracked := ⟨type, record, .fields names⟩
    ∃ content : Property → Value,
      (∀ p ∈ descriptor.properties, record.value? p.name = some (content p)) ∧
      let tokens columns := (Mapper.writing dialect descriptor content columns).tokens
      (record.Binds descriptor.properties → ∀ columns, columns.Sublist descriptor.updatable →
        Query.build dialect.style (tokens columns) = .ok ⟨dialect.style.write (tokens columns),
          (columns ++ descriptor.allKeys).map fun p => boundDatum (content p)⟩) ∧
      (changed ≠ [] →
        TrackedAction.Tracks mapper (mapper.updateTracked connection) tracked
          (some <$> Query.build dialect.style (tokens changed)) ∧
        Action.Sends mapper (mapper.update connection type record)
          (some <$> Query.build dialect.style (tokens descriptor.updatable)) ∧
        ((∀ p ∈ descriptor.updatable, p.name ∈ names) →
          ∀ cache cache' : Cache, cache.Valid mapper → cache'.Valid mapper →
          ∀ {σ : Type} (answer : (c : Call) → σ → c.Answer × σ) (s : σ),
            (((mapper.updateTracked connection).dialogue tracked cache).transcript answer s).1 =
              (((mapper.update connection type record).dialogue cache').transcript answer s).1)) ∧
      (changed = [] → ∀ cache : Cache, cache.Valid mapper → ∃ cache' : Cache,
        cache'.Valid mapper ∧ (mapper.updateTracked connection).dialogue tracked cache =
          .done (if descriptor.updatable = [] then
              (.error (.invalidOperation (.nothingToUpdate type.name)), tracked)
            else (.ok false, tracked.markClean), cache')) := by
  intro descriptor dialect changed tracked
  obtain ⟨content, hcontent⟩ := exists_content mapper.tableRule hrecord
  have hquery : changed ≠ [] → mapper.updateQuery? connection type record (some names) =
      some <$> Query.build dialect.style
        (Mapper.writing dialect descriptor content changed).tokens :=
    updateQuery?_eq_writing hmodel hnames htype hkeyed hrecord hcontent connection (some names)
  have hquery' : descriptor.updatable ≠ [] → mapper.updateQuery? connection type record none =
      some <$> Query.build dialect.style
        (Mapper.writing dialect descriptor content descriptor.updatable).tokens :=
    updateQuery?_eq_writing hmodel hnames htype hkeyed hrecord hcontent connection none
  have htracks : TrackedAction.Tracks mapper (mapper.updateTracked connection) tracked
      (mapper.updateQuery? connection type record (some names)) :=
    TrackedAction.tracks_updateTracked connection rfl
  refine ⟨content, hcontent, fun hbinds columns hcolumns => ?_, fun hne => ?_, fun hnil => ?_⟩
  · exact build_writing dialect hcontent hbinds hcolumns
  · have hpartial : TrackedAction.Tracks mapper (mapper.updateTracked connection) tracked
        (some <$> Query.build dialect.style
          (Mapper.writing dialect descriptor content changed).tokens) := by
      rw [← hquery hne]
      exact htracks
    have hupdatable : descriptor.updatable ≠ [] := by
      intro hnil
      exact hne (by simp [changed, hnil])
    have hwhole : Action.Sends mapper (mapper.update connection type record)
        (some <$> Query.build dialect.style
          (Mapper.writing dialect descriptor content descriptor.updatable).tokens) := by
      rw [← hquery' hupdatable]
      exact Action.sends_updateColumns connection type record none
    refine ⟨hpartial, hwhole, fun hall cache cache' hc hc' σ answer s => ?_⟩
    -- a filter that keeps everything leaves one statement, built anew or from a kept text
    have hsame : changed = descriptor.updatable :=
      List.filter_eq_self.mpr fun p hp => by simpa using hall p hp
    rw [hsame] at hpartial
    exact hpartial.calls_eq hwhole hc hc' answer s
  · intro cache hc
    have hnone : mapper.updateQuery? connection type record (some names) =
        if descriptor.updatable = [] then .error (.invalidOperation (.nothingToUpdate type.name))
        else .ok none := Mapper.updateQuery?_of_nil hkeyed hnil
    obtain ⟨cache', hc', hdialogue⟩ := htracks cache hc
    rw [hnone] at hdialogue
    refine ⟨cache', hc', hdialogue.trans ?_⟩
    by_cases hupdatable : descriptor.updatable = []
    · rw [if_pos hupdatable, if_pos hupdatable]
      rfl
    · rw [if_neg hupdatable, if_neg hupdatable]
      rfl

/-! ### A shelf -/

namespace Sample

/-- A shelf, found by its aisle and its number in it, with a label, the places on it and what stands
there. -/
def shelf : Declaration :=
  ⟨.struct, "Shelf", [],
    [⟨"aisle", "i64", [.markers [("explicit_key", none)]]⟩,
      ⟨"number", "i64", [.markers [("explicit_key", none)]]⟩,
      ⟨"label", "String", []⟩,
      ⟨"load", "Option<i64>", []⟩,
      ⟨"places", "u32", []⟩]⟩

/-- The model of shelves. -/
def shelfModel : Model :=
  ⟨"Shelf", none, none, false,
    [⟨"aisle", "aisle", "i64", false, true, false, false, true⟩,
      ⟨"number", "number", "i64", false, true, false, false, true⟩,
      ⟨"label", "label", "String", false, false, false, false, true⟩,
      ⟨"load", "load", "Option<i64>", false, false, false, false, true⟩,
      ⟨"places", "places", "u32", false, false, false, false, true⟩]⟩

theorem model_shelf : shelf.model = .ok shelfModel := by
  decide +kernel

/-- The type of shelves. -/
def shelfType : EntityType :=
  ⟨"Shelf", none, none, false,
    shelfModel.properties.zipWith Field.mk
      [.required .int64, .required .int64, .required .text, .optional .int64, .required .uint32],
    ["aisle", "number", "label", "load", "places"]⟩

theorem ofModel?_shelfModel : EntityType.ofModel? shelfModel = some shelfType := by
  decide +kernel

/-- The third shelf of the second aisle. -/
def shelved : Record :=
  [("aisle", .present (.int64 2)), ("number", .present (.int64 3)),
    ("label", .present (.text "tea")), ("load", .absent .int64), ("places", .present (.uint32 40))]

end Sample

open Sample in
/-- The load and the places of a shelf changed, and so did its aisle, which is a key.  An account
has nothing that can be written, whatever changed. -/
theorem tracked_update_restricted_shelf :
    TrackedAction.Tracks .standard (Mapper.updateTracked .standard "PostgresConnection")
        ⟨shelfType, shelved, .fields ["aisle", "load", "places"]⟩
        (.ok (some ⟨"UPDATE Shelfs SET \"load\" = $1, \"places\" = $2 WHERE " ++
            "\"aisle\" = $3 AND \"number\" = $4",
          [.int64 none, .uint32 (some 40), .int64 (some 2), .int64 (some 3)]⟩)) ∧
      ∃ cache : Cache, (Mapper.updateTracked .standard "PostgresConnection").dialogue
          ⟨accountType, accountOf "ann", .fields ["opened"]⟩ .empty =
        .done ((.error (.invalidOperation (.nothingToUpdate "Account")),
          ⟨accountType, accountOf "ann", .fields ["opened"]⟩), cache) := by
  refine ⟨?_, ?_⟩
  · obtain ⟨content, hcontent, -, hsome, -⟩ := tracked_update_restricted model_shelf (by decide)
      (Model.describes_of_ofModel? ofModel?_shelfModel) .standard "PostgresConnection" (by decide)
      (show shelved.Complete shelfType from rfl) ["aisle", "load", "places"]
    have hvalue {p : Property} {v : Value}
        (hp : p ∈ (Descriptor.build pluralTable shelfType).properties)
        (hv : shelved.value? p.name = some v) : content p = v :=
      Option.some.inj ((hcontent p hp).symm.trans hv)
    have hload : content ⟨"load", "load", "Option<i64>", false, false, false, false, true⟩ =
        .bigInt none := hvalue (by decide) rfl
    have hplaces : content ⟨"places", "places", "u32", false, false, false, false, true⟩ =
        .unsigned (some 40) := hvalue (by decide) rfl
    have haisle : content ⟨"aisle", "aisle", "i64", false, true, false, false, true⟩ =
        .bigInt (some 2) := hvalue (by decide) rfl
    have hnumber : content ⟨"number", "number", "i64", false, true, false, false, true⟩ =
        .bigInt (some 3) := hvalue (by decide) rfl
    have hquery : some <$> Query.build Dialect.postgres.style
        (Mapper.writing .postgres (Descriptor.build pluralTable shelfType) content
          ((Descriptor.build pluralTable shelfType).updatable.filter fun p =>
            ["aisle", "load", "places"].contains p.name)).tokens =
        .ok (some ⟨"UPDATE Shelfs SET \"load\" = $1, \"places\" = $2 WHERE " ++
            "\"aisle\" = $3 AND \"number\" = $4",
          [.int64 none, .uint32 (some 40), .int64 (some 2), .int64 (some 3)]⟩) := by
      have hwriting : Mapper.writing .postgres (Descriptor.build pluralTable shelfType) content
          ((Descriptor.build pluralTable shelfType).updatable.filter fun p =>
            ["aisle", "load", "places"].contains p.name) =
          ⟨"Shelfs", [(Dialect.postgres.column "load", .bigInt none),
              (Dialect.postgres.column "places", .unsigned (some 40))],
            [.compare (Dialect.postgres.column "aisle") .eq (.bigInt (some 2)),
              .compare (Dialect.postgres.column "number") .eq (.bigInt (some 3))]⟩ := by
        rw [← hload, ← hplaces, ← haisle, ← hnumber]
        rfl
      rw [hwriting]
      exact congrArg (fun sql => Except.ok (some (Query.mk sql _))) (by decide +kernel)
    exact Eq.mp (congrArg (TrackedAction.Tracks _ _ _) hquery) (hsome (by decide)).1
  · obtain ⟨-, -, -, -, hnone⟩ := tracked_update_restricted model_account (by decide)
      (Model.describes_of_ofModel? ofModel?_accountModel) .standard "PostgresConnection" (by decide)
      (show (accountOf "ann").Complete accountType from rfl) ["opened"]
    obtain ⟨cache, -, hdialogue⟩ := hnone (by decide) _ Cache.valid_empty
    exact ⟨cache, hdialogue⟩
end RowMapper
