import RowMapper.Proofs.Filter.Where
import RowMapper.Proofs.Mapper.Ensuring
import RowMapper.Proofs.Mapper.Refusal
import RowMapper.Proofs.Sql.Guarded

/-!
# Every datum has its placeholder

A driver binds the data of a statement to the placeholders that it finds in the text.

* `Statement.Matched` — a statement with one placeholder for each datum;
* `Selection.Fits` — what stays the same while a selection is put together;
* `Writes.guarded` — what an operation on a type with an inert table writes in a dialect that quotes
  the names of columns keeps its placeholders apart from its names and literals;
* `MaySend.matched` — every statement that such an operation may send is matched;
* `placeholders_matched` — every statement of every run.

### What the caches have to do with it

A text that is kept was written for other values.  On a valid cache it is the text that would be
built for the values at hand (`Ensures.cachedQuery_bind`), so it is enough to look at the statements
that an operation may send.
-/

namespace RowMapper

open Sql

/-- A statement has one placeholder for each datum, in the order of the data. -/
def Statement.Matched (dialect : Dialect) (statement : Statement) : Prop :=
  dialect.style.placeholders? statement.sql.toList =
    some (dialect.style.labels 1 statement.params.length)

section Matched

variable {mapper : Mapper} {dialect : Dialect}

/-- What is built from guarded tokens is matched. -/
theorem matched_of_build {tokens : List Token} {query : Query}
    (h : Query.build dialect.style tokens = .ok query) (htokens : Guarded tokens) :
    (mapper.statement query).Matched dialect := by
  have hplaces := placeholders?_of_build h htokens clear_nil fun _ hc =>
    absurd hc List.not_mem_nil
  rw [List.append_nil] at hplaces
  exact hplaces

/-- What is appended to it makes no difference. -/
theorem matched_of_build_append {tokens : List Token} {query : Query} {sql : String}
    (h : Query.build dialect.style tokens = .ok query) (htokens : Guarded tokens)
    (hclear : Clear sql.toList) (hsql : Inert sql) :
    (mapper.statement { query with sql := query.sql ++ sql }).Matched dialect := by
  have hplaces := placeholders?_of_build h htokens hclear hsql
  rw [← String.toList_append] at hplaces
  exact hplaces

/-- An inert text has no placeholders. -/
theorem matched_raw {sql : String} (hsql : Inert sql) :
    (mapper.statement (.raw sql)).Matched dialect := by
  have hplaces := placeholders?_append_of_inert dialect hsql []
  rw [List.append_nil, Style.placeholders?] at hplaces
  exact hplaces

/-- What is appended to an insert is inert, and does not run on from it. -/
theorem inert_of_appended {table : String} {columns : List String} {sql : String}
    (h : dialect.readBack table columns = .appended sql) : Inert sql ∧ Clear sql.toList := by
  cases dialect <;> cases h
  exact ⟨by decide, fun c hc => by obtain rfl := Option.some.inj hc; exact ⟨rfl, rfl⟩⟩

/-- A statement that asks for a key has no placeholders, unless it names the table and the key.  The
variable that is read in one dialect is none, as its name does not start like a placeholder. -/
theorem matched_of_statement (hdialect : dialect ≠ .firebird) {table : String}
    {columns : List String} {sql : String} (h : dialect.readBack table columns = .statement sql) :
    (mapper.statement (.raw sql)).Matched dialect := by
  cases dialect with
  | firebird => exact absurd rfl hdialect
  | sqlServerCompact =>
      cases h
      show Dialect.sqlServerCompact.style.placeholders? "select @@IDENTITY id".toList = some []
      decide +kernel
  | sqlite =>
      cases h
      exact matched_raw (by decide)
  | mySql =>
      cases h
      exact matched_raw (by decide)
  | sqlServer => cases h
  | postgres => cases h

/-- The values of properties are given to their columns. -/
theorem exists_column_of_mem_zip {properties : List Property} {vs : List Value}
    {entry : Ident × Value}
    (h : entry ∈ (properties.map fun p => dialect.column p.column).zip vs) :
    ∃ s, entry.1 = dialect.column s := by
  obtain ⟨p, -, hp⟩ := List.mem_map.mp (List.of_mem_zip h).1
  exact ⟨p.column, hp.symm⟩

end Matched

/-! ### Selections -/

/-- What every selection on a type has in common with the first one, however it is put together:
the dialect and the table are those of the type, and its conditions can be read. -/
structure Selection.Fits (dialect : Dialect) (table : String) (selection : Selection) : Prop where
  dialect_eq : selection.dialect = dialect
  table_eq : selection.descriptor.table = table
  readable : ∀ c ∈ selection.filters, c.Readable dialect

namespace Selection.Fits

variable {dialect : Dialect} {table : String} {selection : Selection}

/-- One more condition makes no difference, if it can be read as well. -/
theorem append (h : selection.Fits dialect table) {c : Condition}
    (hc : c.Readable dialect) :
    Selection.Fits dialect table { selection with filters := selection.filters ++ [c] } := by
  refine ⟨h.dialect_eq, h.table_eq, fun other hother => ?_⟩
  rcases List.mem_append.mp hother with hother | hother
  · exact h.readable other hother
  · obtain rfl := List.mem_singleton.mp hother
    exact hc

/-- The conditions of a filter can be read: the names of columns are quoted. -/
theorem apply (hdialect : dialect ≠ .firebird) (h : selection.Fits dialect table)
    (step : SelectionStep) : (step.apply selection).Fits dialect table := by
  cases step with
  | order property direction => exact ⟨h.dialect_eq, h.table_eq, h.readable⟩
  | restrict condition predicate =>
      rw [SelectionStep.apply, Selection.whereIf]
      split
      · exact h
      · split
        · next filter hcompile =>
            have hreadable := (Filter.compile_spec hcompile).readable fun hbare =>
              absurd (h.dialect_eq.symm.trans hbare) hdialect
            exact h.append (h.dialect_eq ▸ hreadable)
        · exact ⟨h.dialect_eq, h.table_eq, h.readable⟩

theorem foldl_apply (hdialect : dialect ≠ .firebird) (h : selection.Fits dialect table)
    (steps : List SelectionStep) :
    (steps.foldl SelectionStep.apply selection).Fits dialect table := by
  induction steps generalizing selection with
  | nil => exact h
  | cons step steps ih => exact ih (h.apply hdialect step)

/-- So can the comparison with a cursor. -/
theorem after (hdialect : dialect ≠ .firebird) (h : selection.Fits dialect table)
    {sort : Property} {direction : Direction} {cursor : Option String} {later : Selection}
    (hlater : selection.after sort direction cursor = .ok later) :
    later.Fits dialect table := by
  cases cursor with
  | none => exact Except.ok.inj hlater ▸ h
  | some token =>
      obtain ⟨comparison, d, -, rfl, -⟩ := Selection.exists_of_after hlater
      exact h.append ⟨sort.column, by rw [h.dialect_eq], fun hbare => absurd hbare hdialect⟩

end Selection.Fits

/-! ### The statements of operations -/

section Guarded

variable {mapper : Mapper} {dialect : Dialect} {table : String} {tokens : List Token}
  (hdialect : dialect ≠ .firebird) (htable : Inert table)
include hdialect htable

/-- The statements of a selection are guarded. -/
theorem Selection.Writes.guarded {selection : Selection} (h : selection.Writes tokens)
    (hfits : selection.Fits dialect table) : Guarded tokens := by
  have hcount : Guarded Projection.count.tokens := ⟨by decide, trivial⟩
  have hstar : Guarded Projection.star.tokens := ⟨by decide, trivial⟩
  cases h with
  | count =>
      exact guarded_select hdialect hcount (hfits.table_eq ▸ htable) hfits.readable fun _ h =>
        absurd h List.not_mem_nil
  | rows horder =>
      refine guarded_select hdialect hstar (hfits.table_eq ▸ htable) hfits.readable
        fun entry hentry => ?_
      obtain ⟨column, hcolumn⟩ := horder entry hentry
      rw [hcolumn, hfits.dialect_eq]
      exact bare_column hdialect column
  | @page sort direction cursor later hlater window =>
      have hinert : Inert later.descriptor.table :=
        (hfits.after hdialect hlater).table_eq ▸ htable
      have hordered : (later.dialect.column sort.column).bare = false :=
        (hfits.after hdialect hlater).dialect_eq ▸ bare_column hdialect sort.column
      exact guarded_page hdialect _ hinert (hfits.after hdialect hlater).readable hordered _

/-- The rows of the table on which conditions hold. -/
theorem guarded_rowsWhere {filters : List Condition}
    (hfilters : ∀ c ∈ filters, c.Readable dialect) :
    Guarded (Mapper.rowsWhere table filters).tokens := by
  have hstar : Guarded Projection.star.tokens := ⟨by decide, trivial⟩
  exact guarded_select hdialect hstar htable hfilters fun _ h => absurd h List.not_mem_nil

/-- The tokens of an update are guarded. -/
theorem guarded_updateOf (columns keys : List Property) (vs : List Value) :
    Guarded (Mapper.updateOf dialect table columns keys vs).tokens := by
  refine guarded_update hdialect _ htable (fun assignment hmem => ?_)
    (readable_matching hdialect fun _ hmem => exists_column_of_mem_zip hmem)
  obtain ⟨s, hs⟩ := exists_column_of_mem_zip hmem
  exact hs ▸ bare_column hdialect s

omit htable in
theorem guarded_insertOf {descriptor : Descriptor} (htable : Inert descriptor.table)
    (rows : List (List Value)) {returning : Returning}
    (hreturning : ∀ name, returning = .column name → ∃ column, name = dialect.column column) :
    Guarded ((Mapper.insertOf descriptor dialect rows).tokens returning) := by
  refine guarded_insert _ htable (fun column hcolumn => ?_) fun name hname => ?_
  · obtain ⟨p, -, rfl⟩ := List.mem_map.mp hcolumn
    exact bare_column hdialect p.column
  · obtain ⟨column, rfl⟩ := hreturning name hname
    exact bare_column hdialect column

omit htable in
/-- The condition of a key can be read. -/
theorem readable_keyMatch? (keys : List Property) (vs : List Value) :
    ∀ c ∈ Mapper.keyMatch? dialect keys vs, c.Readable dialect :=
  readable_joinAll? (readable_matching hdialect fun _ hmem => exists_column_of_mem_zip hmem)

end Guarded

namespace Operation

variable {mapper : Mapper} {operation : Operation}
  (hdialect : mapper.dialectFor operation.connection ≠ .firebird)
  (htable : Inert (Descriptor.build mapper.tableRule operation.type).table)
include hdialect htable

/-- The statements of an operation are guarded, in every dialect that quotes the names of columns
and for every inert table. -/
theorem Writes.guarded {tokens : List Token} (h : operation.Writes mapper tokens) :
    Guarded tokens := by
  cases h with
  | get key =>
      refine guarded_rowsWhere hdialect htable (readable_matching hdialect fun entry hentry => ?_)
      obtain rfl := List.mem_singleton.mp hentry
      exact ⟨key.column, rfl⟩
  | getAll => exact guarded_rowsWhere hdialect htable fun _ h => absurd h List.not_mem_nil
  | insert hvs hreturning => exact guarded_insertOf hdialect htable _ hreturning
  | insertMany rows => exact guarded_insertOf hdialect htable rows fun _ h => nomatch h
  | update columns keys vs => exact guarded_updateOf hdialect htable columns keys vs
  | updateTracked columns keys vs => exact guarded_updateOf hdialect htable columns keys vs
  | delete keys vs =>
      exact guarded_delete hdialect ⟨_, _⟩ htable fun c hc =>
        readable_keyMatch? hdialect keys vs c (Option.mem_toList.mp hc)
  | @deleteMany connection type records conditions hconditions =>
      have hany : ∀ c ∈ Condition.joinAll? .or (conditions.filterMap id),
          c.Readable (mapper.dialectFor connection) := by
        refine readable_joinAll? fun c hc => ?_
        obtain ⟨condition, hmem, hcondition⟩ := List.mem_filterMap.mp hc
        obtain ⟨keys, vs, rfl⟩ := hconditions condition hmem
        exact readable_keyMatch? hdialect keys vs c hcondition
      exact guarded_delete hdialect ⟨_, _⟩ htable fun c hc => hany c (Option.mem_toList.mp hc)
  | deleteAll => exact guarded_delete hdialect ⟨_, []⟩ htable fun _ h => absurd h List.not_mem_nil
  | @select connection type steps ending tokens h =>
      have hfresh : Selection.Fits (mapper.dialectFor connection)
          (Descriptor.build mapper.tableRule type).table
          ⟨mapper, type, .build mapper.tableRule type, mapper.dialectFor connection, [], none, none⟩ :=
        ⟨rfl, rfl, fun _ h => absurd h List.not_mem_nil⟩
      exact h.guarded hdialect htable (hfresh.foldl_apply hdialect steps)

/-- Every statement that an operation may send is matched. -/
theorem MaySend.matched {query : Query} (h : operation.MaySend mapper query) :
    (mapper.statement query).Matched (mapper.dialectFor operation.connection) := by
  cases h with
  | built h hbuild => exact matched_of_build hbuild (h.guarded hdialect htable)
  | appended h hbuild hread =>
      obtain ⟨hinert, hclear⟩ := inert_of_appended hread
      exact matched_of_build_append hbuild (h.guarded hdialect htable) hclear hinert
  | alone hread => exact matched_of_statement hdialect hread

end Operation

/-! ### Runs -/

/-- **Every datum has its placeholder.**  In every run of operations on one mapper (`warmReports`),
over whatever connections, take a statement that is sent for a type with an inert table (`Inert`),
in a dialect that quotes the names of columns.  Outside of quoted names and literals its text has
exactly as many placeholders (`Style.placeholders?`) as the statement has data; and where
placeholders are numbered, they are numbered from one on, from left to right. -/
theorem placeholders_matched {σ : Type} (mapper : Mapper)
    (answer : Nat → (c : Call) → σ → c.Answer × σ) (operations : List (Nat × Operation)) (s : σ) :
    ∀ report ∈ (warmReports mapper answer operations .empty s).1, ∀ dialect,
      mapper.dialectFor report.operation.connection = dialect → dialect ≠ .firebird →
      Inert (Descriptor.build mapper.tableRule report.operation.type).table →
      ∀ call ∈ report.sent, ∀ statement, call.statement? = some statement →
        ∃ places, dialect.style.placeholders? statement.sql.toList = some places ∧
          places.length = statement.params.length ∧
          (dialect.style.numbered = true →
            places = (List.range' 1 statement.params.length).map some) := by
  intro report hreport dialect hresolved hdialect htable
  subst hresolved
  refine forall_warmReports
    (H := fun operation => mapper.dialectFor operation.connection ≠ .firebird ∧
      Inert (Descriptor.build mapper.tableRule operation.type).table)
    (P := fun report => ∀ call ∈ report.sent, ∀ statement, call.statement? = some statement →
      ∃ places, (mapper.dialectFor report.operation.connection).style.placeholders?
          statement.sql.toList = some places ∧
        places.length = statement.params.length ∧
        ((mapper.dialectFor report.operation.connection).style.numbered = true →
          places = (List.range' 1 statement.params.length).map some))
    ?_ operations Cache.valid_empty s report hreport ⟨hdialect, htable⟩
  intro operation hkind cache hcache
  refine (operation.ensures mapper cache hcache).mono fun sent result _ h => ?_
  intro call hcall statement hstatement
  obtain ⟨query, hquery, rfl⟩ := h.2.1 call hcall statement hstatement
  refine ⟨_, hquery.matched hkind.1 hkind.2, ?_, fun hnumbered => ?_⟩
  · simp [Style.labels]
  · exact List.map_congr_left fun number _ => if_pos hnumbered

/-! ### Hostile names -/

namespace Sample

/-- Columns whose names are made of quotes, placeholders, or nothing. -/
def hostile : EntityType :=
  { name := "Hostile"
    table := some "hostile"
    defaultSort := some "id"
    interface := false
    fields :=
      [⟨⟨"id", "a\"]\x60b", "i64", true, false, false, false, true⟩, .required .int64⟩,
        ⟨⟨"first", "'? $1", "String", false, false, false, false, true⟩, .required .text⟩,
        ⟨⟨"second", "[@P1", "String", false, false, false, false, true⟩, .required .text⟩,
        ⟨⟨"third", "", "String", false, false, false, false, true⟩, .required .text⟩]
    provided := ["id", "first", "second", "third"] }

/-- A filter on two of these columns. -/
def hostileFilter : Predicate :=
  .binary .or (.callWith .contains (.column "first") (.string (some "100%")))
    (.isIn (.column "third") [.string (some "?"), .string (some "@P9")])

/-- A page of hostile entities, and one of them by its key. -/
def hostileRun : List (Nat × Operation) :=
  [(0, .select "SqlConnection" hostile [.restrict true hostileFilter] (.page 3 10)),
    (0, .get "NpgsqlConnection" hostile (.bigInt (some 4)))]

end Sample

/-- A page by numbered rows binds three values in its inner query and two in the outer one, and
columns that are named like placeholders do not count. -/
theorem placeholders_matched_hostile :
    (warmReports .standard (fun _ => Recording.answer) Sample.hostileRun .empty
        (Recording.start "SqlConnection" true)).1.map (fun report => report.sent.length) = [2, 1] ∧
      ∀ report ∈ (warmReports .standard (fun _ => Recording.answer) Sample.hostileRun .empty
          (Recording.start "SqlConnection" true)).1,
        ∀ call ∈ report.sent, ∀ statement, call.statement? = some statement →
          ∃ places, (Mapper.standard.dialectFor report.operation.connection).style.placeholders?
              statement.sql.toList = some places ∧
            places = (List.range' 1 statement.params.length).map some := by
  refine ⟨by decide +kernel, fun report hreport call hcall statement hstatement => ?_⟩
  have hoperation := hreport
  simp only [Sample.hostileRun, warmReports, List.mem_cons, List.not_mem_nil, or_false]
    at hoperation
  have hmatched (dialect : Dialect)
      (hresolved : Mapper.standard.dialectFor report.operation.connection = dialect)
      (hdialect : dialect ≠ .firebird) (hnumbered : dialect.style.numbered = true)
      (htable : Inert (Descriptor.build pluralTable report.operation.type).table) :
      ∃ places, (Mapper.standard.dialectFor report.operation.connection).style.placeholders?
          statement.sql.toList = some places ∧
        places = (List.range' 1 statement.params.length).map some := by
    obtain ⟨places, hplaces, -, hcounted⟩ := placeholders_matched .standard _ _ _ report hreport
      dialect hresolved hdialect htable call hcall statement hstatement
    exact ⟨places, hresolved ▸ hplaces, hcounted hnumbered⟩
  rcases hoperation with hpage | hget
  · exact hmatched .sqlServer (by rw [hpage]; decide +kernel) (by decide) rfl
      (by rw [hpage]; decide)
  · exact hmatched .postgres (by rw [hget]; decide +kernel) (by decide) rfl (by rw [hget]; decide)

end RowMapper
