import RowMapper.Proofs.Filter.Where
import RowMapper.Proofs.Mapper.Providing
import RowMapper.Proofs.Mapper.Updating
import RowMapper.Proofs.Sql.Guarded

/-!
# Deletes and updates touch the rows that they are for

A delete and an update find their rows by the keys of the entities that they are given.

* `Mapper.deleteQuery?` — the statement of a delete of some entities; `sends_deleteMany` and
  `sends_delete` say that it is sent, for one entity by both operations;
* `Mapper.setting` — what stands in front of the clause of an update;
* `Addresses` — a row is that of an entity: the keys agree, and none of them is NULL;
* `Identifies` — a condition is true of the rows of an entity only, with one lemma for the chain of
  `AND`s over keys (`exists_identifies`) and one for the chain of `OR`s over entities
  (`Identifies.foldl_or`);
* `rows_addressed` — the statements that are sent.

### What SQL has to do for it

A comparison with NULL has to be unknown.  An entity whose key is absent has no rows then, and a row
whose key is NULL is that of no entity.  Nothing else is asked of the way in which a database
compares values.
-/

namespace RowMapper

open Sql

/-! ### The statement of a delete -/

namespace Mapper

/-- The statement of a delete, or the error in its place.  It is sent if there is one. -/
def deleteQuery? (mapper : Mapper) (connection : String) (type : EntityType)
    (records : List Record) : Except Error (Option Query) := do
  let descriptor := Descriptor.build mapper.tableRule type
  let dialect := mapper.dialectFor connection
  let keys ← descriptor.requireKeys "delete"
  if records.isEmpty then
    throw (.argument (.noEntities descriptor.entity))
  let conditions ← records.mapM (keyCondition dialect type keys)
  let any := Condition.joinAll? .or (conditions.filterMap id)
  some <$> Query.build dialect.style (Delete.tokens ⟨descriptor.table, any.toList⟩)

end Mapper

namespace Action

variable {mapper : Mapper} {connection : String} {type : EntityType}

/-- **A delete of several entities sends its statement.** -/
theorem sends_deleteMany (connection : String) (type : EntityType) (records : List Record) :
    Sends mapper (mapper.deleteMany connection type records)
      (mapper.deleteQuery? connection type records) := by
  refine .describe (.lift_bind fun keys hkeys => ?_)
  refine .ite (.throw_bind _ _) ?_
  rw [mapM_keyCondition]
  refine .lift_bind fun conditions _ => ?_
  exact Sends.exec (x := liftM (Query.build (mapper.dialectFor connection).style _))
    fun cache hc => ⟨cache, hc, rfl⟩

/-- A chain of one link is that link. -/
theorem joinAll?_filterMap_singleton (connective : Connective) (c? : Option Condition) :
    Condition.joinAll? connective ([c?].filterMap id) = c? := by
  cases c? <;> rfl

/-- The statement of a delete of one entity. -/
theorem deleteQuery?_singleton (record : Record) :
    mapper.deleteQuery? connection type [record] = (do
      let descriptor := Descriptor.build mapper.tableRule type
      let dialect := mapper.dialectFor connection
      let keys ← descriptor.requireKeys "delete"
      let values ← type.valuesOf record keys
      some <$> Query.build dialect.style
        (Delete.tokens ⟨descriptor.table, (Mapper.keyMatch? dialect keys values).toList⟩)) := by
  unfold Mapper.deleteQuery?
  refine bind_congr fun keys => ?_
  rw [List.mapM_cons, Mapper.keyCondition]
  cases type.valuesOf record keys with
  | error e => rfl
  | ok vs =>
      show some <$> Query.build _ (Delete.tokens ⟨_, (Condition.joinAll? .or
        ([Mapper.keyMatch? (mapper.dialectFor connection) keys vs].filterMap id)).toList⟩) = _
      rw [joinAll?_filterMap_singleton]
      rfl

/-- **A delete of one entity sends the same statement as a delete of several that is given this
one**, whether its text was kept or not. -/
theorem sends_delete (connection : String) (type : EntityType) (record : Record) :
    Sends mapper (mapper.delete connection type record)
      (mapper.deleteQuery? connection type [record]) := by
  rw [deleteQuery?_singleton]
  refine .describe (.lift_bind fun keys hkeys => .lift_bind fun vs hvs => ?_)
  have hquery (cache : Cache) (hc : cache.Valid mapper) :=
    Transparent.dialogue_cachedQuery hc (Mapper.template_delete hkeys
      (mapper.dialectFor connection)) (length_of_takeValues hvs)
  exact Sends.exec hquery

end Action

namespace Mapper

variable {mapper : Mapper} {connection : String} {type : EntityType} {keys : List Property}

/-- The statement of a delete once the conditions on the keys are there. -/
theorem deleteQuery?_of_conditions {records : List Record} {conditions : List Condition}
    (hkeys : (Descriptor.build mapper.tableRule type).requireKeys "delete" = .ok keys)
    (hne : records ≠ [])
    (h : records.mapM (keyCondition (mapper.dialectFor connection) type keys) =
      .ok (conditions.map some)) :
    mapper.deleteQuery? connection type records =
      some <$> Query.build (mapper.dialectFor connection).style
        (Delete.tokens ⟨(Descriptor.build mapper.tableRule type).table,
          (Condition.joinAll? .or conditions).toList⟩) := by
  have hconditions : (conditions.map some).filterMap id = conditions := by
    simp [List.filterMap_map]
  unfold deleteQuery?
  dsimp only
  rw [hkeys]
  obtain ⟨record, records, rfl⟩ := List.exists_cons_of_ne_nil hne
  show ((record :: records).mapM (keyCondition (mapper.dialectFor connection) type keys) >>= _) = _
  rw [h]
  show some <$> Query.build _ (Delete.tokens ⟨_, (Condition.joinAll? .or
    ((conditions.map some).filterMap id)).toList⟩) = _
  rw [hconditions]

/-- The statement of an update once the values are there. -/
theorem updateQuery?_of_values {record : Record} {only : Option (List String)}
    {assigned identifying : List Value}
    (hkeys : (Descriptor.build mapper.tableRule type).requireKeys "update" = .ok keys)
    (hne : writtenProperties (Descriptor.build mapper.tableRule type) only ≠ [])
    (hassigned : type.valuesOf record
      (writtenProperties (Descriptor.build mapper.tableRule type) only) = .ok assigned)
    (hidentifying : type.valuesOf record keys = .ok identifying) :
    mapper.updateQuery? connection type record only =
      some <$> Query.build (mapper.dialectFor connection).style
        (updateOf (mapper.dialectFor connection) (Descriptor.build mapper.tableRule type).table
          (writtenProperties (Descriptor.build mapper.tableRule type) only) keys
          (assigned ++ identifying)).tokens := by
  have hupdatable : (Descriptor.build mapper.tableRule type).updatable.isEmpty = false := by
    rw [List.isEmpty_eq_false_iff]
    intro hnil
    refine hne ?_
    cases only <;> simp [writtenProperties, hnil]
  unfold updateQuery?
  dsimp only
  rw [hkeys]
  show (if _ then _ else _) = _
  rw [if_neg (by simp [hupdatable])]
  show (if _ then _ else _) = _
  rw [if_neg (by simpa using hne), hassigned]
  show (type.valuesOf record keys >>= _) = _
  rw [hidentifying]
  rfl

end Mapper

/-! ### What stands in front of the clause -/

namespace Mapper

/-- The update of all rows: values for the columns of properties, without conditions. -/
def setting (dialect : Dialect) (table : String) (columns : List Property)
    (values : List Value) : Update :=
  ⟨table, (columns.map fun p => dialect.column p.column).zip values, []⟩

variable (dialect : Dialect) (table : String) {columns keys : List Property}
  {assigned : List Value}

theorem values_setting (h : assigned.length = columns.length) :
    Sql.values (setting dialect table columns assigned).tokens = assigned := by
  have hassignments := values_assignments (columns.map fun p => dialect.column p.column) assigned
  rw [List.length_map, ← h, List.take_length] at hassignments
  rw [setting, Update.tokens, values_append]
  simpa [Sql.values, whereTokens, Condition.joinAll?] using hassignments

/-- The update of a row is that of all rows, with a clause behind it. -/
theorem tokens_updateOf (h : assigned.length = columns.length) (identifying : List Value) :
    (updateOf dialect table columns keys (assigned ++ identifying)).tokens =
      (setting dialect table columns assigned).tokens ++
        whereTokens (matching ((keys.map fun p => dialect.column p.column).zip identifying)) := by
  rw [updateOf, List.drop_left' h, zip_append_of_length (by simpa using h)]
  simp [setting, Update.tokens, whereTokens, Condition.joinAll?]

theorem write_delete (style : Style) (table : String) :
    style.write (Delete.tokens ⟨table, []⟩) = "DELETE FROM " ++ table := by
  rw [String.ext_iff]
  simp [Style.write, Delete.tokens, whereTokens, Condition.joinAll?, Style.writeFrom, Ident.write,
    Ident.plain]

end Mapper

/-! ### The rows of an entity -/

/-- The values of an entity for some properties can be bound. -/
def Record.Binds (record : Record) (properties : List Property) : Prop :=
  ∀ p ∈ properties, ∀ v, record.value? p.name = some v → ∃ d, v.toDatum = .ok d

/-- An entity whose contents can all be bound has only such values. -/
theorem Record.binds_of_forall {record : Record}
    (h : ∀ entry ∈ record, ∃ d, entry.2.toValue.toDatum = .ok d) (properties : List Property) :
    record.Binds properties := by
  intro p _ v hv
  obtain ⟨content, hcontent, rfl⟩ := Option.map_eq_some_iff.mp hv
  obtain ⟨entry, hfind, rfl⟩ := Option.map_eq_some_iff.mp hcontent
  exact h entry (List.mem_of_find?_eq_some hfind)

/-- A row is that of an entity: in the columns of the keys the row has the values of the entity, and
none of them is NULL. -/
def Addresses (interpretation : Interpretation) (keys : List Property) (record : Record)
    (cells : String → Datum) : Prop :=
  ∀ key ∈ keys, ∃ v d, record.value? key.name = some v ∧ v.toDatum = .ok d ∧ d.isNull = false ∧
    (cells key.column).isNull = false ∧ interpretation.holds .eq (cells key.column) d = .yes

/-- A condition is true of the rows of some entities, and of no others. -/
structure Identifies (dialect : Dialect) (keys : List Property) (records : List Record)
    (c : Condition) : Prop where
  readable : c.Readable dialect
  bindable : Bindable (values c.tokens)
  truth (interpretation : Interpretation) (cells : String → Datum) :
    interpretation.NullUnknown → (c.truth interpretation cells = .yes ↔
      ∃ record ∈ records, Addresses interpretation keys record cells)

section Keys

variable {dialect : Dialect} {record : Record} {keys : List Property} {vs : List Value}

/-- The values of an entity are bindable as such. -/
theorem Record.Binds.bindable (h : record.Binds keys)
    (hvalues : List.Forall₂ (fun p v => record.value? p.name = some v) keys vs) : Bindable vs := by
  induction hvalues with
  | nil => exact fun v hv => absurd hv List.not_mem_nil
  | @cons p v keys vs hv _ ih =>
      intro w hw
      rcases List.mem_cons.mp hw with rfl | hw
      · exact h p List.mem_cons_self w hv
      · exact ih (fun q hq => h q (List.mem_cons_of_mem p hq)) w hw

/-- Conditions on columns with plain names can be read in every dialect. -/
theorem readable_matching_of_plain (hplain : dialect = .firebird → ∀ p ∈ keys, Plain p.column)
    (vs : List Value) :
    ∀ c ∈ matching ((keys.map fun p => dialect.column p.column).zip vs), c.Readable dialect := by
  intro c hc
  obtain ⟨entry, hentry, rfl⟩ := List.mem_map.mp hc
  obtain ⟨p, hp, hname⟩ := List.mem_map.mp (List.of_mem_zip hentry).1
  exact ⟨p.column, hname.symm, fun hdialect => hplain hdialect p hp⟩

/-- A condition on a key is true of a row if the row has the value of the entity there. -/
theorem holds_eq_yes_iff {interpretation : Interpretation} (hnull : interpretation.NullUnknown)
    {key : Property} {v : Value} {d : Datum} (hv : record.value? key.name = some v)
    (hd : v.toDatum = .ok d) (cells : String → Datum) :
    interpretation.holds .eq (cells key.column) (boundDatum v) = .yes ↔
      ∃ v d, record.value? key.name = some v ∧ v.toDatum = .ok d ∧ d.isNull = false ∧
        (cells key.column).isNull = false ∧
        interpretation.holds .eq (cells key.column) d = .yes := by
  rw [boundDatum_of_ok hd]
  constructor
  · intro hyes
    obtain ⟨hcell, hdatum⟩ := hnull.isNull_eq_false hyes
    exact ⟨v, d, hv, hd, hdatum, hcell, hyes⟩
  · rintro ⟨w, e, hw, he, -, -, hyes⟩
    obtain rfl : v = w := Option.some.inj (hv.symm.trans hw)
    obtain rfl : d = e := Except.ok.inj (hd.symm.trans he)
    exact hyes

/-- All conditions on keys are true of a row if it is that of the entity. -/
theorem forall_matching_iff {interpretation : Interpretation} (hnull : interpretation.NullUnknown)
    (hvalues : List.Forall₂ (fun p v => record.value? p.name = some v) keys vs)
    (hbinds : record.Binds keys) (cells : String → Datum) :
    (∀ c ∈ matching ((keys.map fun p => dialect.column p.column).zip vs),
        c.truth interpretation cells = .yes) ↔ Addresses interpretation keys record cells := by
  induction hvalues with
  | nil => simp [matching, Addresses]
  | @cons key v keys vs hv _ ih =>
      obtain ⟨d, hd⟩ := hbinds key List.mem_cons_self v hv
      have hrest := ih fun p hp => hbinds p (List.mem_cons_of_mem key hp)
      show (∀ c ∈ Condition.compare (dialect.column key.column) .eq v ::
        matching ((keys.map fun p => dialect.column p.column).zip vs), _) ↔ _
      rw [List.forall_mem_cons, hrest, Addresses, Addresses, List.forall_mem_cons, Condition.truth,
        name_column, holds_eq_yes_iff hnull hv hd]

/-- **The chain of conditions on the keys of an entity identifies it.** -/
theorem exists_identifies (hne : keys ≠ [])
    (hplain : dialect = .firebird → ∀ p ∈ keys, Plain p.column)
    (hvalues : List.Forall₂ (fun p v => record.value? p.name = some v) keys vs)
    (hbinds : record.Binds keys) :
    ∃ c, Mapper.keyMatch? dialect keys vs = some c ∧ Identifies dialect keys [record] c := by
  obtain ⟨key, keys, rfl⟩ := List.exists_cons_of_ne_nil hne
  obtain ⟨v, vs, hv, hrest, rfl⟩ := List.forall₂_cons_left_iff.mp hvalues
  have hreadable := readable_matching_of_plain hplain (v :: vs)
  have hwhere := Template.values_keyMatch? dialect (key :: keys) hvalues.length_eq.symm
  refine ⟨_, rfl, readable_joinAll? hreadable _ rfl, ?_, fun interpretation cells hnull => ?_⟩
  · intro w hw
    exact hbinds.bindable hvalues w (hwhere ▸ hw)
  · simp only [List.mem_singleton, exists_eq_left]
    refine (truth_foldl_and_eq_yes interpretation cells _ _).trans ?_
    exact forall_matching_iff hnull hvalues hbinds cells

end Keys

/-! ### The rows of several entities -/

namespace Identifies

variable {dialect : Dialect} {keys : List Property} {records others : List Record}
  {c d : Condition}

/-- One condition or another. -/
theorem or (hc : Identifies dialect keys records c) (hd : Identifies dialect keys others d) :
    Identifies dialect keys (records ++ others) (.join .or c d) where
  readable := ⟨hc.readable, hd.readable⟩
  bindable := by
    rw [values_join]
    exact hc.bindable.append hd.bindable
  truth interpretation cells hnull := by
    rw [Condition.truth, Truth.or_eq_yes_iff, hc.truth interpretation cells hnull,
      hd.truth interpretation cells hnull]
    simp only [List.mem_append, or_and_right, exists_or]

/-- **A chain of `OR`s identifies the entities of all its links.** -/
theorem foldl_or {rest : List Condition} (hfirst : Identifies dialect keys records c)
    (hrest : List.Forall₂ (fun record d => Identifies dialect keys [record] d) others rest) :
    Identifies dialect keys (records ++ others) (rest.foldl (Condition.join .or) c) := by
  induction hrest generalizing c records with
  | nil =>
      rw [List.append_nil]
      exact hfirst
  | @cons record d others rest hd _ ih =>
      have hlonger := ih (hfirst.or hd)
      rwa [List.append_assoc] at hlonger

end Identifies

/-- The conditions of entities, if each of them has one. -/
theorem exists_mapM_some {α β : Type} {R : α → β → Prop} {step : α → Except Error (Option β)}
    {as : List α} (h : ∀ a ∈ as, ∃ b, step a = .ok (some b) ∧ R a b) :
    ∃ bs : List β, as.mapM step = .ok (bs.map some) ∧ List.Forall₂ R as bs := by
  induction as with
  | nil => exact ⟨[], rfl, .nil⟩
  | cons a as ih =>
      obtain ⟨b, hb, hR⟩ := h a List.mem_cons_self
      obtain ⟨bs, hbs, hrest⟩ := ih fun a ha => h a (List.mem_cons_of_mem _ ha)
      refine ⟨b :: bs, ?_, .cons hR hrest⟩
      rw [List.mapM_cons, hb, hbs]
      rfl

/-! ### The statements -/

theorem Descriptor.requireKeys_eq_ok {descriptor : Descriptor} (h : descriptor.allKeys ≠ [])
    (operation : String) : descriptor.requireKeys operation = .ok descriptor.allKeys := by
  unfold Descriptor.requireKeys
  split
  · exact absurd ‹_› h
  · rfl

section Statements

variable {declaration : Declaration} {model : Model} {type : EntityType} {mapper : Mapper}
  {connection : String}
  (hmodel : declaration.model = .ok model)
  (hnames : (declaration.fields.map fun field => Declaration.plainName field.name).Nodup)
  (htype : model.Describes type)
  (hplain : Filter.PlainColumns
    ⟨Descriptor.build mapper.tableRule type, mapper.dialectFor connection⟩)
  (hkeyed : (Descriptor.build mapper.tableRule type).allKeys ≠ [])
include hmodel hnames htype hplain hkeyed

/-- The condition on the keys of an entity of a declared type. -/
theorem exists_keyMatch {record : Record} (hrecord : record.Complete type)
    (hbinds : record.Binds (Descriptor.build mapper.tableRule type).allKeys) :
    ∃ vs c, type.valuesOf record (Descriptor.build mapper.tableRule type).allKeys = .ok vs ∧
      Bindable vs ∧
      Mapper.keyMatch? (mapper.dialectFor connection)
        (Descriptor.build mapper.tableRule type).allKeys vs = some c ∧
      Identifies (mapper.dialectFor connection)
        (Descriptor.build mapper.tableRule type).allKeys [record] c := by
  have hasks : (Descriptor.build mapper.tableRule type).Asks
      (Descriptor.build mapper.tableRule type).allKeys := .allKeys
  obtain ⟨vs, hvs, hvalues⟩ := htype.exists_valuesOf hmodel hnames hrecord hasks
  obtain ⟨c, hc, hidentifies⟩ := exists_identifies hkeyed
    (fun hdialect p hp => hplain hdialect p (mem_properties_of_mem_allKeys hp)) hvalues hbinds
  exact ⟨vs, c, hvs, hbinds.bindable hvalues, hc, hidentifies⟩

/-- The statement of a delete is for the rows of its entities. -/
theorem exists_deleteQuery {records : List Record} (hne : records ≠ [])
    (hrecords : ∀ record ∈ records, record.Complete type ∧
      record.Binds (Descriptor.build mapper.tableRule type).allKeys) :
    ∃ (query : Query) (text : String) (phrase : Phrase),
      mapper.deleteQuery? connection type records = .ok (some query) ∧
      query.sql = "DELETE FROM " ++ (Descriptor.build mapper.tableRule type).table ++ " WHERE " ++
        text ∧
      Phrase.read? (mapper.dialectFor connection).style text.toList = some phrase ∧
      ∀ (interpretation : Interpretation) (cells : String → Datum), interpretation.NullUnknown →
        (phrase.truth interpretation query.params cells = .yes ↔ ∃ record ∈ records,
          Addresses interpretation (Descriptor.build mapper.tableRule type).allKeys record
            cells) := by
  have hcondition : ∀ record ∈ records, ∃ c,
      Mapper.keyCondition (mapper.dialectFor connection) type
        (Descriptor.build mapper.tableRule type).allKeys record = .ok (some c) ∧
      Identifies (mapper.dialectFor connection)
        (Descriptor.build mapper.tableRule type).allKeys [record] c := by
    intro record hrecord
    obtain ⟨vs, c, hvs, -, hc, hidentifies⟩ := exists_keyMatch hmodel hnames htype hplain hkeyed
      (hrecords record hrecord).1 (hrecords record hrecord).2
    refine ⟨c, ?_, hidentifies⟩
    rw [Mapper.keyCondition, hvs]
    exact congrArg Except.ok hc
  obtain ⟨conditions, hconditions, hall⟩ := exists_mapM_some hcondition
  have hquery := Mapper.deleteQuery?_of_conditions
    (Descriptor.requireKeys_eq_ok hkeyed "delete") hne hconditions
  obtain ⟨record, records, rfl⟩ := List.exists_cons_of_ne_nil hne
  obtain ⟨first, rest, hfirst, hrest, rfl⟩ := List.forall₂_cons_left_iff.mp hall
  have hany := hfirst.foldl_or hrest
  obtain ⟨query, text, phrase, hbuild, hsql, hread, htruth⟩ := exists_clause
    (Delete.tokens ⟨(Descriptor.build mapper.tableRule type).table, []⟩)
    (show Condition.joinAll? .and [rest.foldl (Condition.join .or) first] = some _ from rfl)
    hany.readable (fun v hv => absurd hv List.not_mem_nil) hany.bindable
  refine ⟨query, text, phrase, ?_, ?_, hread, fun interpretation cells hnull => ?_⟩
  · rw [hquery]
    exact congrArg (some <$> ·) hbuild
  · rw [hsql, Mapper.write_delete]
  · rw [htruth]
    exact hany.truth interpretation cells hnull

/-- The statement of an update is for the rows of its entity. -/
theorem exists_updateQuery {record : Record} {only : Option (List String)}
    (hne : Mapper.writtenProperties (Descriptor.build mapper.tableRule type) only ≠ [])
    (hrecord : record.Complete type)
    (hbinds : record.Binds (Descriptor.build mapper.tableRule type).allKeys)
    (hwritten : record.Binds
      (Mapper.writtenProperties (Descriptor.build mapper.tableRule type) only)) :
    ∃ (assigned : List Value) (query : Query) (text : String) (phrase : Phrase),
      type.valuesOf record
        (Mapper.writtenProperties (Descriptor.build mapper.tableRule type) only) = .ok assigned ∧
      mapper.updateQuery? connection type record only = .ok (some query) ∧
      query.sql = (mapper.dialectFor connection).style.write (Mapper.setting
          (mapper.dialectFor connection) (Descriptor.build mapper.tableRule type).table
          (Mapper.writtenProperties (Descriptor.build mapper.tableRule type) only)
          assigned).tokens ++
        " WHERE " ++ text ∧
      Phrase.readFrom? (mapper.dialectFor connection).style (assigned.length + 1) text.toList =
        some phrase ∧
      ∀ (interpretation : Interpretation) (cells : String → Datum), interpretation.NullUnknown →
        (phrase.truth interpretation query.params cells = .yes ↔
          Addresses interpretation (Descriptor.build mapper.tableRule type).allKeys record
            cells) := by
  obtain ⟨identifying, c, hidentifying, hkeys, hc, hidentifies⟩ :=
    exists_keyMatch hmodel hnames htype hplain hkeyed hrecord hbinds
  have hasks : (Descriptor.build mapper.tableRule type).Asks
      (Mapper.writtenProperties (Descriptor.build mapper.tableRule type) only) :=
    .updatable (sublist_writtenProperties _ only)
  obtain ⟨assigned, hassigned, hvalues⟩ := htype.exists_valuesOf hmodel hnames hrecord hasks
  have hlength := length_of_takeValues hassigned
  have hquery : mapper.updateQuery? connection type record only = _ :=
    Mapper.updateQuery?_of_values (Descriptor.requireKeys_eq_ok hkeyed "update") hne hassigned
      hidentifying
  -- the first placeholder of the clause comes after those of the assigned values
  have hhead := Mapper.values_setting (mapper.dialectFor connection)
    (Descriptor.build mapper.tableRule type).table hlength
  obtain ⟨query, text, phrase, hbuild, hsql, hread, htruth⟩ := exists_clause
    (Mapper.setting (mapper.dialectFor connection) (Descriptor.build mapper.tableRule type).table
      (Mapper.writtenProperties (Descriptor.build mapper.tableRule type) only) assigned).tokens
    hc hidentifies.readable (by rw [hhead]; exact hwritten.bindable hvalues) hidentifies.bindable
  rw [hhead] at hread
  refine ⟨assigned, query, text, phrase, hassigned, ?_, hsql, hread,
    fun interpretation cells hnull => ?_⟩
  · rw [hquery, Mapper.tokens_updateOf _ _ hlength]
    exact congrArg (some <$> ·) hbuild
  · have hsays := hidentifies.truth interpretation cells hnull
    simp only [List.mem_singleton, exists_eq_left] at hsays
    rw [htruth, hsays]

end Statements

/-- **Deletes and updates touch exactly the rows that they are for.**  Entities of a declared type
with a key, whose values can be bound (`Record.Binds`), are deleted with one statement
(`Action.Sends`), and what stands behind its `WHERE` reads as a phrase that is true of a row if one
of the entities `Addresses` the row, which means that all keys agree with it, none of them NULL; one
entity is deleted with the same statement, alone or in a list, and whether the text was kept or not.
An update, of all that it can write or of what changed (`Mapper.writtenProperties`), has a clause of
the same kind for its entity, with its placeholders after those of the values that are assigned
(`Mapper.setting`). -/
theorem rows_addressed {declaration : Declaration} {model : Model} {type : EntityType}
    (hmodel : declaration.model = .ok model)
    (hnames : (declaration.fields.map fun field => Declaration.plainName field.name).Nodup)
    (htype : model.Describes type) (mapper : Mapper) (connection : String)
    (hplain : Filter.PlainColumns
      ⟨Descriptor.build mapper.tableRule type, mapper.dialectFor connection⟩)
    (hkeyed : (Descriptor.build mapper.tableRule type).allKeys ≠ []) :
    let descriptor := Descriptor.build mapper.tableRule type
    let style := (mapper.dialectFor connection).style
    (∀ records : List Record, records ≠ [] →
      (∀ record ∈ records, record.Complete type ∧ record.Binds descriptor.allKeys) →
      ∃ (query : Query) (text : String) (phrase : Phrase),
        Action.Sends mapper (mapper.deleteMany connection type records) (.ok (some query)) ∧
        (∀ record, records = [record] →
          Action.Sends mapper (mapper.delete connection type record) (.ok (some query))) ∧
        query.sql = "DELETE FROM " ++ descriptor.table ++ " WHERE " ++ text ∧
        Phrase.read? style text.toList = some phrase ∧
        ∀ (interpretation : Interpretation) (cells : String → Datum), interpretation.NullUnknown →
          (phrase.truth interpretation query.params cells = .yes ↔
            ∃ record ∈ records, Addresses interpretation descriptor.allKeys record cells)) ∧
    ∀ (record : Record) (only : Option (List String)),
      let columns := Mapper.writtenProperties descriptor only
      columns ≠ [] → record.Complete type → record.Binds descriptor.allKeys →
      record.Binds columns →
      ∃ (assigned : List Value) (query : Query) (text : String) (phrase : Phrase),
        type.valuesOf record columns = .ok assigned ∧
        Action.Sends mapper (mapper.updateColumns connection type record only)
          (.ok (some query)) ∧
        query.sql = style.write (Mapper.setting (mapper.dialectFor connection) descriptor.table
          columns assigned).tokens ++ " WHERE " ++ text ∧
        Phrase.readFrom? style (assigned.length + 1) text.toList = some phrase ∧
        ∀ (interpretation : Interpretation) (cells : String → Datum), interpretation.NullUnknown →
          (phrase.truth interpretation query.params cells = .yes ↔
            Addresses interpretation descriptor.allKeys record cells) := by
  refine ⟨fun records hne hrecords => ?_, fun record only hne hrecord hbinds hwritten => ?_⟩
  · obtain ⟨query, text, phrase, hquery, hsql, hread, htruth⟩ :=
      exists_deleteQuery hmodel hnames htype hplain hkeyed hne hrecords
    refine ⟨query, text, phrase, ?_, ?_, hsql, hread, htruth⟩
    · rw [← hquery]
      exact Action.sends_deleteMany connection type records
    · rintro record rfl
      rw [← hquery]
      exact Action.sends_delete connection type record
  · obtain ⟨assigned, query, text, phrase, hassigned, hquery, hsql, hread, htruth⟩ :=
      exists_updateQuery hmodel hnames htype hplain hkeyed hne hrecord hbinds hwritten
    refine ⟨assigned, query, text, phrase, hassigned, ?_, hsql, hread, htruth⟩
    rw [← hquery]
    exact Action.sends_updateColumns connection type record only

/-! ### Members of teams -/

namespace Sample

/-- A member of a team, found by the number of the team and that of the person.  Somebody without a
team has no number of a team. -/
def membership : Declaration :=
  ⟨.struct, "Membership", [],
    [⟨"team", "Option<i64>", [.markers [("explicit_key", none)]]⟩,
      ⟨"person", "i64", [.markers [("explicit_key", none)]]⟩,
      ⟨"role", "i64", []⟩]⟩

/-- The model of memberships. -/
def membershipModel : Model :=
  ⟨"Membership", none, none, false,
    [⟨"team", "team", "Option<i64>", false, true, false, false, true⟩,
      ⟨"person", "person", "i64", false, true, false, false, true⟩,
      ⟨"role", "role", "i64", false, false, false, false, true⟩]⟩

theorem model_membership : membership.model = .ok membershipModel := by
  decide +kernel

/-- The type of memberships. -/
def membershipType : EntityType :=
  ⟨"Membership", none, none, false,
    membershipModel.properties.zipWith Field.mk
      [.optional .int64, .required .int64, .required .int64],
    ["team", "person", "role"]⟩

theorem ofModel?_membershipModel : EntityType.ofModel? membershipModel = some membershipType := by
  decide +kernel

/-- Person 2 in team 1. -/
def teamed : Record :=
  [("team", .present (.int64 1)), ("person", .present (.int64 2)), ("role", .present (.int64 5))]

/-- Person 3 without a team. -/
def alone : Record :=
  [("team", .absent .int64), ("person", .present (.int64 3)), ("role", .present (.int64 5))]

/-- The row of a person, whose team may be NULL. -/
def memberCells (team : Option Int64) (person : Int64) (column : String) : Datum :=
  if column = "team" then .int64 team else .int64 (some person)

/-- The keys of memberships. -/
def memberKeys : List Property :=
  [⟨"team", "team", "Option<i64>", false, true, false, false, true⟩,
    ⟨"person", "person", "i64", false, true, false, false, true⟩]

/-- The row of the first member is found by its own keys. -/
theorem addresses_teamed : Addresses byNumber memberKeys teamed (memberCells (some 1) 2) := by
  intro key hkey
  simp only [memberKeys, List.mem_cons, List.not_mem_nil, or_false] at hkey
  rcases hkey with rfl | rfl
  · exact ⟨_, _, rfl, rfl, rfl, rfl, by decide⟩
  · exact ⟨_, _, rfl, rfl, rfl, rfl, by decide⟩

/-- The row of another person is not. -/
theorem not_addresses_other :
    ¬ Addresses byNumber memberKeys teamed (memberCells (some 1) 3) := by
  intro h
  obtain ⟨v, d, hv, hd, -, -, hyes⟩ := h _ (List.mem_cons_of_mem _ List.mem_cons_self)
  obtain rfl := Option.some.inj hv
  obtain rfl := Except.ok.inj hd
  exact absurd hyes (by decide)

/-- A row without a team is that of nobody. -/
theorem not_addresses_null (record : Record) (person : Int64) :
    ¬ Addresses byNumber memberKeys record (memberCells none person) := by
  intro h
  obtain ⟨v, d, -, -, -, hcell, -⟩ := h _ List.mem_cons_self
  cases hcell

end Sample

/-- Two members are deleted, and the first one is given another role.  The row of the first one is
found, the rows of another person and without a team are not. -/
theorem rows_addressed_membership :
    (∃ (query : Query) (phrase : Phrase),
      Action.Sends .standard (Mapper.deleteMany .standard "PgConnection" Sample.membershipType
        [Sample.teamed, Sample.alone]) (.ok (some query)) ∧
      phrase.truth Sample.byNumber query.params (Sample.memberCells (some 1) 2) = .yes ∧
      phrase.truth Sample.byNumber query.params (Sample.memberCells none 3) ≠ .yes) ∧
    ∃ (query : Query) (phrase : Phrase),
      Action.Sends .standard (Mapper.updateColumns .standard "PgConnection"
        Sample.membershipType Sample.teamed none) (.ok (some query)) ∧
      phrase.truth Sample.byNumber query.params (Sample.memberCells (some 1) 2) = .yes ∧
      phrase.truth Sample.byNumber query.params (Sample.memberCells (some 1) 3) ≠ .yes := by
  obtain ⟨hdelete, hupdate⟩ := rows_addressed Sample.model_membership (by decide)
    (Model.describes_of_ofModel? Sample.ofModel?_membershipModel) .standard "PgConnection"
    (fun hdialect => by cases hdialect) (by decide)
  have hteamed : ∀ properties, Sample.teamed.Binds properties := Record.binds_of_forall <|
    List.forall_mem_cons.mpr ⟨⟨_, rfl⟩, List.forall_mem_cons.mpr ⟨⟨_, rfl⟩,
      List.forall_mem_singleton.mpr ⟨_, rfl⟩⟩⟩
  have halone : ∀ properties, Sample.alone.Binds properties := Record.binds_of_forall <|
    List.forall_mem_cons.mpr ⟨⟨_, rfl⟩, List.forall_mem_cons.mpr ⟨⟨_, rfl⟩,
      List.forall_mem_singleton.mpr ⟨_, rfl⟩⟩⟩
  refine ⟨?_, ?_⟩
  · obtain ⟨query, text, phrase, hsends, -, -, -, htruth⟩ :=
      hdelete [Sample.teamed, Sample.alone] (by simp)
        (List.forall_mem_cons.mpr ⟨⟨rfl, hteamed _⟩, List.forall_mem_singleton.mpr ⟨rfl, halone _⟩⟩)
    refine ⟨query, phrase, hsends, ?_, fun hyes => ?_⟩
    · exact (htruth _ _ Sample.nullUnknown_byNumber).mpr
        ⟨Sample.teamed, List.mem_cons_self, Sample.addresses_teamed⟩
    · obtain ⟨record, -, haddresses⟩ := (htruth _ _ Sample.nullUnknown_byNumber).mp hyes
      exact Sample.not_addresses_null record 3 haddresses
  · obtain ⟨_, query, text, phrase, -, hsends, -, -, htruth⟩ :=
      hupdate Sample.teamed none (by decide) rfl (hteamed _) (hteamed _)
    refine ⟨query, phrase, hsends, ?_, fun hyes => ?_⟩
    · exact (htruth _ _ Sample.nullUnknown_byNumber).mpr Sample.addresses_teamed
    · exact Sample.not_addresses_other ((htruth _ _ Sample.nullUnknown_byNumber).mp hyes)

end RowMapper
