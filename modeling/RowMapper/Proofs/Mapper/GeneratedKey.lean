import RowMapper.Proofs.Filter.Where
import RowMapper.Proofs.Interleaving
import RowMapper.Proofs.Mapper.Bracket
import RowMapper.Proofs.Mapper.Operation
import RowMapper.Proofs.Paging.CursorCodec
import RowMapper.Proofs.Paging.NumberedPages

/-!
# Generated keys

Two clients insert an entity each into one table, over connections of their own.  Their calls take
turns in any order.

* `SharedTable`, `KeyServer` — a table whose rows get a key each, and the database that has it;
* `SharedTable.Beside` — what the calls of a client leave alone for the other one;
* `KeyServer.Answered` — what is true of an insert that is done;
* `KeyServer.ends_insertReturning`, `ends_whileOpen` — how an insert ends whatever comes between its
  calls;
* `insert_answers_key` — two inserts under every schedule.

### What is taken of a database

The server knows the text that an insert into its table begins with and the queries for keys, and
no other SQL.  An insert adds a row, whatever its values.  `SCOPE_IDENTITY()`, `@@IDENTITY`,
`LAST_INSERT_ID()` and `last_insert_rowid()` answer the key that was last generated over the
connection that asks, `RETURNING` the key of the row that is inserted, and `FIRST 1` in descending
order the largest key in the table.  Which key comes next is left open.

### What the other client can spoil

Nothing that belongs to a connection is touched by a call over another one.  What a client asks its
own connection is therefore answered as if it were alone, however far apart the insert and the query
are.  The largest key belongs to the table, where the other client adds rows: of that a client knows
only that its own row is among those that are looked at.
-/

namespace RowMapper

open Sql

/-! ### A table with generated keys -/

/-- A table that two clients share, with their connections. -/
structure SharedTable where
  /-- The keys of the rows, the latest first. -/
  keys : List Int64
  /-- The keys that were generated over the connection of a client, the latest first. -/
  generated : Client → List Int64
  /-- Whether the connection of a client is open. -/
  isOpen : Client → Bool

/-- A database with a table whose rows get a key each. -/
structure KeyServer where
  dialect : Dialect
  table : String
  /-- The column of the key. -/
  key : String
  /-- The key of the next row, which may depend on all that was stored before. -/
  next : SharedTable → Int64

/-- The key that was last generated over the connection of a client, or NULL. -/
def SharedTable.lastKey (t : SharedTable) (who : Client) : Datum := .int64 (t.generated who).head?

namespace KeyServer

variable (server : KeyServer)

/-- A new row, which a client inserts. -/
def insert (who : Client) (t : SharedTable) : SharedTable :=
  { t with
    keys := server.next t :: t.keys
    generated := Function.update t.generated who (server.next t :: t.generated who) }

/-- Whether a statement inserts a row. -/
def inserts (sql : String) : Bool :=
  ("INSERT INTO " ++ server.table ++ " (").toList.isPrefixOf sql.toList

/-- Whether a statement inserts a row and goes on with a text. -/
def insertsWith (tail sql : String) : Bool :=
  server.inserts sql && tail.toList.isSuffixOf sql.toList

/-- A result of one row with one column. -/
def single (column : String) (d : Datum) : List Row := [⟨"0", [(column, d)]⟩]

/-- The result of a query of a client, with the table after it.  Other queries than those for keys
find nothing. -/
def rows (who : Client) (sql : String) (t : SharedTable) : List Row × SharedTable :=
  match server.dialect with
  | .sqlServer =>
    if server.insertsWith ";select SCOPE_IDENTITY() id" sql then
      (single "id" ((server.insert who t).lastKey who), server.insert who t)
    else ([], t)
  | .postgres =>
    if server.insertsWith (" RETURNING " ++ Dialect.postgres.columnText server.key) sql then
      (single server.key (.int64 (some (server.next t))), server.insert who t)
    else ([], t)
  | .sqlServerCompact =>
    (if sql = "select @@IDENTITY id" then single "id" (t.lastKey who) else [], t)
  | .sqlite =>
    (if sql = "SELECT last_insert_rowid() id" then single "id" (t.lastKey who) else [], t)
  | .mySql =>
    (if sql = "Select LAST_INSERT_ID() id" then single "id" (t.lastKey who) else [], t)
  | .firebird =>
    (if sql = "SELECT FIRST 1 " ++ server.key ++ " ID FROM " ++ server.table ++ " ORDER BY " ++
        server.key ++ " DESC" then
      t.keys.max?.elim [] fun largest => single "ID" (.int64 (some largest))
    else [], t)

/-- The answer to a call of a client. -/
def answer (who : Client) : (c : Call) → SharedTable → c.Answer × SharedTable
  | .isOpen, t => (t.isOpen who, t)
  | .openUp, t => (.ok (), { t with isOpen := Function.update t.isOpen who true })
  | .close, t => (.ok (), { t with isOpen := Function.update t.isOpen who false })
  | .query statement, t =>
    if t.isOpen who then
      (.ok (server.rows who statement.sql t).1, (server.rows who statement.sql t).2)
    else (.error "connection is closed", t)
  | .exec statement, t =>
    if t.isOpen who then
      if server.inserts statement.sql then (.ok 1, server.insert who t) else (.ok 0, t)
    else (.error "connection is closed", t)

end KeyServer

/-! ### What the other client leaves alone -/

/-- What a client relies on while the other one is at work. -/
structure SharedTable.Beside (who : Client) (t later : SharedTable) : Prop where
  /-- No key is generated over its connection. -/
  generated : later.generated who = t.generated who
  isOpen : later.isOpen who = t.isOpen who
  /-- Rows are added only. -/
  keys : t.keys <:+ later.keys

namespace SharedTable.Beside

variable {who : Client} {s t u : SharedTable}

theorem refl (t : SharedTable) : Beside who t t := ⟨rfl, rfl, List.suffix_refl _⟩

theorem trans (hst : Beside who s t) (htu : Beside who t u) : Beside who s u :=
  ⟨htu.generated.trans hst.generated, htu.isOpen.trans hst.isOpen, hst.keys.trans htu.keys⟩

end SharedTable.Beside

namespace KeyServer

variable {server : KeyServer} {who other : Client}

theorem beside_insert (h : other ≠ who) (t : SharedTable) :
    SharedTable.Beside who t (server.insert other t) :=
  ⟨Function.update_of_ne h.symm _ _, rfl, List.suffix_cons _ _⟩

/-- A query either inserts a row or changes nothing. -/
theorem rows_cases (server : KeyServer) (who : Client) (sql : String) (t : SharedTable) :
    (server.rows who sql t).2 = server.insert who t ∨ (server.rows who sql t).2 = t := by
  unfold rows
  split <;> first | exact .inr rfl | (split; exacts [.inl rfl, .inr rfl])

/-- No call of the other client touches what a client relies on. -/
theorem beside_answer (h : other ≠ who) (c : Call) (t : SharedTable) :
    SharedTable.Beside who t (server.answer other c t).2 := by
  cases c with
  | isOpen => exact .refl t
  | openUp => exact ⟨rfl, Function.update_of_ne h.symm _ _, List.suffix_refl _⟩
  | close => exact ⟨rfl, Function.update_of_ne h.symm _ _, List.suffix_refl _⟩
  | query statement =>
      simp only [answer]
      split
      · rcases rows_cases server other statement.sql t with hrows | hrows
        · rw [hrows]
          exact beside_insert h t
        · rw [hrows]
          exact .refl t
      · exact .refl t
  | exec statement =>
      simp only [answer]
      split
      · split
        · exact beside_insert h t
        · exact .refl t
      · exact .refl t

/-! ### Texts -/

variable {insert : Insert}

/-- The text of an insert into the table is taken for one, whatever it goes on with. -/
theorem inserts_write (htable : insert.table = server.table) (style : Style)
    (returning : Returning) (tail : String) :
    server.inserts (style.write (insert.tokens returning) ++ tail) = true := by
  rw [inserts, List.isPrefixOf_iff_prefix, ← htable]
  simp [Style.write, Insert.tokens, Style.writeFrom, Ident.write, Ident.plain]

theorem insertsWith_append (htable : insert.table = server.table) (style : Style)
    (returning : Returning) (tail : String) :
    server.insertsWith tail (style.write (insert.tokens returning) ++ tail) = true := by
  rw [insertsWith, inserts_write htable, Bool.true_and, List.isSuffixOf_iff_suffix]
  simp

/-- The text of an insert ends with what it is to answer. -/
theorem insertsWith_returning (server : KeyServer) (htable : insert.table = server.table) :
    server.insertsWith (" RETURNING " ++ Dialect.postgres.columnText server.key)
      (Dialect.postgres.style.write
        (insert.tokens (.column (Dialect.postgres.column server.key)))) = true := by
  have htokens : insert.tokens (.column (Dialect.postgres.column server.key)) =
      insert.tokens .nothing ++
        [.text " RETURNING ", .name (Dialect.postgres.column server.key)] := by
    simp [Insert.tokens, Returning.tokens]
  have hinserts := inserts_write htable Dialect.postgres.style
    (.column (Dialect.postgres.column server.key)) ""
  rw [String.append_empty] at hinserts
  rw [insertsWith, hinserts, Bool.true_and, List.isSuffixOf_iff_suffix, htokens, Style.write,
    writeFrom_append]
  simp [Style.writeFrom, Dialect.columnText]

/-! ### What is sent, and what is read back -/

/-- An insert that is done has had one key generated over its connection.  It was told that key or,
over Firebird, the largest of the keys that the table held at some time, its own among them. -/
def Answered (server : KeyServer) (who : Client) (before : List Int64)
    (ending : Except Error Int × Cache) (t : SharedTable) : Prop :=
  ∃ own found, ending.1 = .ok found ∧ t.generated who = own :: before ∧
    (server.dialect ≠ .firebird → found = own.toInt) ∧
    (server.dialect = .firebird → ∃ held largest, held <:+ t.keys ∧ own ∈ held ∧
      held.max? = some largest ∧ found = largest.toInt)

/-- What is said stays true while others insert. -/
theorem Answered.of_suffix {before : List Int64} {ending : Except Error Int × Cache}
    {t later : SharedTable} (h : server.Answered who before ending t)
    (hgenerated : later.generated who = t.generated who) (hkeys : t.keys <:+ later.keys) :
    server.Answered who before ending later := by
  obtain ⟨own, found, hresult, hown, hsame, hlargest⟩ := h
  refine ⟨own, found, hresult, hgenerated.trans hown, hsame, fun hfirebird => ?_⟩
  obtain ⟨held, largest, hheld, hrest⟩ := hlargest hfirebird
  exact ⟨held, largest, hheld.trans hkeys, hrest⟩

theorem Answered.beside {before : List Int64} {ending : Except Error Int × Cache}
    {t later : SharedTable} (h : server.Answered who before ending t)
    (hlater : SharedTable.Beside who t later) : server.Answered who before ending later :=
  h.of_suffix hlater.generated hlater.keys

/-- The key in a result of one column is read back, under its name in any case. -/
theorem firstIdentity_single {column name : String} (key : Int64)
    (hname : LetterCase.equalIgnoringAsciiCase column name = true) :
    firstIdentity (single column (.int64 (some key))) name = .ok key.toInt := by
  have hget (d : Datum) : Row.get? ⟨"0", [(column, d)]⟩ name = some d := by
    by_cases hsame : column = name <;> simp [Row.get?, hsame, hname]
  have hidentity : (Datum.int64 (some key)).identity = .ok key.toInt :=
    Datum.identity_of_integer? rfl (IntRange.contains_int64 key)
  simp [firstIdentity, single, hget, hidentity]

/-- An insert over an open connection, and what goes on after it. -/
theorem ends_insert {mapper : Mapper} {cache : Cache} {t : SharedTable} {α : Type} {n : Nat}
    (hopen : t.isOpen who = true) {query : Query} (hinserts : server.inserts query.sql = true)
    {f : UInt64 → Action α} {Q : Except Error α × Cache → SharedTable → Prop}
    (h : ∀ now, SharedTable.Beside who t now → Dialogue.Ends (server.answer who)
      (SharedTable.Beside who) Q n ((f 1).dialogue cache) (server.insert who now)) :
    Dialogue.Ends (server.answer who) (SharedTable.Beside who) Q (n + 1)
      ((mapper.exec query >>= f).dialogue cache) t := by
  rw [Action.dialogue_exec_bind]
  intro now hnow
  have hanswer : server.answer who (.exec (mapper.statement query)) now =
      (.ok 1, server.insert who now) := by
    simp [answer, hnow.isOpen.trans hopen, Mapper.statement, hinserts]
  rw [hanswer]
  exact h now hnow

/-- A query for a key, on an open connection. -/
theorem ends_identity {mapper : Mapper} {cache : Cache} {t : SharedTable}
    (hopen : t.isOpen who = true) {query : Query} {column : String}
    {Q : Except Error Int × Cache → SharedTable → Prop}
    (hrows : ∀ now, SharedTable.Beside who t now →
      Q (firstIdentity (server.rows who query.sql now).1 column, cache)
        (server.rows who query.sql now).2) :
    Dialogue.Ends (server.answer who) (SharedTable.Beside who) Q 1
      ((mapper.query query >>= fun rows => liftM (firstIdentity rows column)).dialogue cache)
      t := by
  rw [Action.dialogue_query_bind]
  intro now hnow
  have hanswer : server.answer who (.query (mapper.statement query)) now =
      (.ok (server.rows who query.sql now).1, (server.rows who query.sql now).2) :=
    if_pos (hnow.isOpen.trans hopen)
  rw [hanswer]
  have hend : Dialogue.Ends (server.answer who) (SharedTable.Beside who) Q 0
      ((liftM (firstIdentity (server.rows who query.sql now).1 column) : Action Int).dialogue cache)
      (server.rows who query.sql now).2 := by
    rw [Action.dialogue_lift, Dialogue.Ends.done_iff]
    exact hrows now hnow
  exact hend

section Insert

variable {insert : Insert} {key : Property} (hcheck : insert.check = .ok insert)
  (hbind : Bindable insert.rows.flatten) (mapper : Mapper) (cache : Cache) {t : SharedTable}
  (hopen : t.isOpen who = true) {Q : Except Error Int × Cache → SharedTable → Prop}

include hcheck hbind hopen

/-- A key that the insert answers to a text behind it. -/
theorem ends_appended {sql : String}
    (hread : server.dialect.readBack insert.table [key.column] = .appended sql)
    (hrows : ∀ now, SharedTable.Beside who t now →
      let answer := server.rows who
        (server.dialect.style.write (insert.tokens .nothing) ++ sql) now
      Q (firstIdentity answer.1 "id", cache) answer.2) :
    Dialogue.Ends (server.answer who) (SharedTable.Beside who) Q 2
      ((mapper.insertReturning server.dialect insert [key]).dialogue cache) t := by
  have hbuild := build_of_bindable server.dialect.style (insert.tokens .nothing)
    (by rwa [values_insert_returning])
  have hinsert : mapper.insertReturning server.dialect insert [key] = (do
      let rows ← mapper.query ⟨server.dialect.style.write (insert.tokens .nothing) ++ sql,
        (values (insert.tokens .nothing)).map boundDatum⟩
      firstIdentity rows "id") := by
    simp only [Mapper.insertReturning, hcheck, Action.lift_ok_bind, List.map_cons, List.map_nil,
      hread, hbuild]
  rw [hinsert]
  refine Dialogue.Ends.mono (ends_identity hopen fun now hnow => ?_) (Nat.le_succ 1)
  exact hrows now hnow

/-- A key that the insert answers as a column. -/
theorem ends_returning {column : String}
    (hread : server.dialect.readBack insert.table [key.column] = .returning column)
    (hrows : ∀ now, SharedTable.Beside who t now →
      let answer := server.rows who (server.dialect.style.write
        (insert.tokens (.column (server.dialect.column column)))) now
      Q (firstIdentity answer.1 key.column, cache) answer.2) :
    Dialogue.Ends (server.answer who) (SharedTable.Beside who) Q 2
      ((mapper.insertReturning server.dialect insert [key]).dialogue cache) t := by
  have hbuild := build_of_bindable server.dialect.style
    (insert.tokens (.column (server.dialect.column column))) (by rwa [values_insert_returning])
  have hinsert : mapper.insertReturning server.dialect insert [key] = (do
      let rows ← mapper.query ⟨server.dialect.style.write
          (insert.tokens (.column (server.dialect.column column))),
        (values (insert.tokens (.column (server.dialect.column column)))).map boundDatum⟩
      firstIdentity rows key.column) := by
    simp only [Mapper.insertReturning, hcheck, Action.lift_ok_bind, List.map_cons, List.map_nil,
      hread, hbuild]
  rw [hinsert]
  refine Dialogue.Ends.mono (ends_identity hopen fun now hnow => ?_) (Nat.le_succ 1)
  exact hrows now hnow

/-- A key that is asked for in a statement of its own, after which the other client may have been at
work. -/
theorem ends_statement (htable : insert.table = server.table) {sql : String}
    (hread : server.dialect.readBack insert.table [key.column] = .statement sql)
    (hrows : ∀ now later : SharedTable, SharedTable.Beside who t now →
      SharedTable.Beside who (server.insert who now) later →
      let answer := server.rows who sql later
      Q (firstIdentity answer.1 "id", cache) answer.2) :
    Dialogue.Ends (server.answer who) (SharedTable.Beside who) Q 2
      ((mapper.insertReturning server.dialect insert [key]).dialogue cache) t := by
  have hbuild := build_of_bindable server.dialect.style (insert.tokens .nothing)
    (by rwa [values_insert_returning])
  have hinsert : mapper.insertReturning server.dialect insert [key] = (do
      let _ ← mapper.exec ⟨server.dialect.style.write (insert.tokens .nothing),
        (values (insert.tokens .nothing)).map boundDatum⟩
      let rows ← mapper.query (Query.raw sql)
      firstIdentity rows "id") := by
    simp only [Mapper.insertReturning, hcheck, Action.lift_ok_bind, List.map_cons, List.map_nil,
      hread, hbuild]
  rw [hinsert]
  refine ends_insert hopen ?_ fun now hnow => ?_
  · have hinserts := inserts_write htable server.dialect.style .nothing ""
    rw [String.append_empty] at hinserts
    exact hinserts
  · have hstill : (server.insert who now).isOpen who = true := hnow.isOpen.trans hopen
    exact ends_identity hstill fun later hlater => hrows now later hnow hlater

end Insert

section Answers

variable {t now later : SharedTable} {cache : Cache} (hnow : SharedTable.Beside who t now)
  (hlater : SharedTable.Beside who (server.insert who now) later)

include hnow hlater

theorem generated_beside_insert :
    later.generated who = server.next now :: t.generated who := by
  rw [hlater.generated, ← hnow.generated]
  exact Function.update_self _ _ _

/-- A client that is told the key of its own row. -/
theorem answered_own (hdialect : server.dialect ≠ .firebird) (column : String) :
    server.Answered who (t.generated who)
      (firstIdentity (single column (.int64 (some (server.next now)))) column, cache) later :=
  ⟨server.next now, (server.next now).toInt,
    firstIdentity_single _ (LetterCase.equalIgnoringAsciiCase_self column),
    generated_beside_insert hnow hlater, fun _ => rfl, fun h => absurd h hdialect⟩

/-- The key last generated over the connection of a client is that of its own row. -/
theorem answered_lastKey (hdialect : server.dialect ≠ .firebird) :
    server.Answered who (t.generated who)
      (firstIdentity (single "id" (later.lastKey who)) "id", cache) later := by
  rw [SharedTable.lastKey, generated_beside_insert hnow hlater]
  exact answered_own hnow hlater hdialect "id"

/-- A client that is told the largest key is told one that is at least its own. -/
theorem answered_largest (hdialect : server.dialect = .firebird) :
    server.Answered who (t.generated who)
      (firstIdentity (later.keys.max?.elim [] fun largest => single "ID" (.int64 (some largest)))
        "id", cache) later := by
  have hown : server.next now ∈ later.keys := hlater.keys.subset List.mem_cons_self
  obtain ⟨largest, hlargest⟩ : ∃ largest, later.keys.max? = some largest := by
    cases hkeys : later.keys.max? with
    | some largest => exact ⟨largest, rfl⟩
    | none =>
        rw [List.max?_eq_none_iff.mp hkeys] at hown
        cases hown
  refine ⟨server.next now, largest.toInt, ?_, generated_beside_insert hnow hlater,
    fun h => absurd hdialect h,
    fun _ => ⟨later.keys, largest, List.suffix_refl _, hown, hlargest, rfl⟩⟩
  rw [hlargest]
  exact firstIdentity_single _ (by decide)

end Answers

/-- An insert of a row into the table ends with an answer for its key. -/
theorem ends_insertReturning {insert : Insert} {key : Property}
    (hcheck : insert.check = .ok insert) (htable : insert.table = server.table)
    (hkey : key.column = server.key) (hbind : Bindable insert.rows.flatten) (mapper : Mapper)
    (cache : Cache) {t : SharedTable} (hopen : t.isOpen who = true) :
    Dialogue.Ends (server.answer who) (SharedTable.Beside who)
      (server.Answered who (t.generated who)) 2
      ((mapper.insertReturning server.dialect insert [key]).dialogue cache) t := by
  obtain ⟨dialect, table, column, next⟩ := server
  cases dialect with
  | sqlServer =>
      refine ends_appended hcheck hbind mapper cache hopen rfl fun now hnow => ?_
      have hwith := insertsWith_append htable Dialect.sqlServer.style .nothing
        ";select SCOPE_IDENTITY() id"
      simp only [rows, hwith, if_true]
      exact answered_lastKey hnow (.refl _) (by simp)
  | postgres =>
      refine ends_returning hcheck hbind mapper cache hopen rfl fun now hnow => ?_
      have hwith := insertsWith_returning ⟨.postgres, table, column, next⟩ htable
      have hcolumn : [key.column].getLastD "" = column := hkey
      simp only [rows, hcolumn, hwith, if_true]
      rw [hkey]
      exact answered_own hnow (.refl _) (by simp) column
  | sqlServerCompact =>
      refine ends_statement hcheck hbind mapper cache hopen htable rfl
        fun now later hnow hlater => ?_
      exact answered_lastKey hnow hlater (by simp)
  | sqlite =>
      refine ends_statement hcheck hbind mapper cache hopen htable rfl
        fun now later hnow hlater => ?_
      exact answered_lastKey hnow hlater (by simp)
  | mySql =>
      refine ends_statement hcheck hbind mapper cache hopen htable rfl
        fun now later hnow hlater => ?_
      exact answered_lastKey hnow hlater (by simp)
  | firebird =>
      refine ends_statement hcheck hbind mapper cache hopen htable rfl
        fun now later hnow hlater => ?_
      have hsame : "SELECT FIRST 1 " ++ [key.column].headD "" ++ " ID FROM " ++ insert.table ++
          " ORDER BY " ++ [key.column].headD "" ++ " DESC" =
          "SELECT FIRST 1 " ++ column ++ " ID FROM " ++ table ++ " ORDER BY " ++ column ++
            " DESC" := by
        rw [List.headD_cons, hkey, htable]
      simp only [rows, hsame, if_true]
      exact answered_largest hnow hlater rfl

/-- A closed connection is opened and closed again, which changes no key. -/
theorem ends_whileOpen {body : Action Int} {cache : Cache} {t : SharedTable} {n : Nat}
    (hbody : ∀ now : SharedTable, now.isOpen who = true →
      Dialogue.Ends (server.answer who) (SharedTable.Beside who)
        (server.Answered who (now.generated who)) n (body.dialogue cache) now) :
    Dialogue.Ends (server.answer who) (SharedTable.Beside who)
      (server.Answered who (t.generated who)) (n + 3)
      ((Mapper.whileOpen body).dialogue cache) t := by
  rw [Action.dialogue_whileOpen]
  intro now hnow
  rw [← hnow.generated]
  cases hopen : now.isOpen who with
  | true =>
      have hanswer : server.answer who .isOpen now = (true, now) := congrArg (·, now) hopen
      rw [hanswer]
      exact (hbody now hopen).mono (Nat.le_add_right n 2)
  | false =>
      have hanswer : server.answer who .isOpen now = (false, now) := congrArg (·, now) hopen
      rw [hanswer]
      intro later hlater
      rw [← hlater.generated]
      have hopened : (server.answer who .openUp later).2.isOpen who = true := by simp [answer]
      refine Dialogue.Ends.bind ((hbody _ hopened).imp fun ending t hanswered => ?_)
      intro last hlast
      rw [Dialogue.Ends.done_iff]
      exact (hanswered.beside hlast).of_suffix rfl (List.suffix_refl _)

end KeyServer

/-! ### Two clients -/

/-- What a client wants inserted, with its mapper and what that keeps. -/
structure Insertion where
  mapper : Mapper
  cache : Cache
  /-- The type of its connection. -/
  connection : String
  type : EntityType
  record : Record

namespace Insertion

/-- How the type of the entity is stored. -/
def descriptor (insertion : Insertion) : Descriptor :=
  .build insertion.mapper.tableRule insertion.type

/-- The insert of the entity. -/
def dialogue (insertion : Insertion) : Dialogue (Except Error Int × Cache) :=
  (insertion.mapper.insert insertion.connection insertion.type insertion.record).dialogue
    insertion.cache

/-- An entity with one generated key goes into the table over a connection of its database. -/
structure Fits (insertion : Insertion) (server : KeyServer) : Prop where
  cache : insertion.cache.Valid insertion.mapper
  dialect : insertion.mapper.dialectFor insertion.connection = server.dialect
  table : insertion.descriptor.table = server.table
  key : ∃ key, insertion.descriptor.keys = [key] ∧ key.column = server.key
  row : ∃ row, insertion.type.valuesOf insertion.record insertion.descriptor.insertable = .ok row ∧
    Bindable row

/-- Whatever the other client does, an insert ends with an answer for its key. -/
theorem Fits.ends {insertion : Insertion} {server : KeyServer} (h : insertion.Fits server)
    (who : Client) (t : SharedTable) : Dialogue.Ends (server.answer who) (SharedTable.Beside who)
      (server.Answered who (t.generated who)) 5 insertion.dialogue t := by
  obtain ⟨key, hkeys, hkey⟩ := h.key
  obtain ⟨row, hvalues, hbind⟩ := h.row
  obtain ⟨cache, -, hdescribe⟩ :=
    Action.Transparent.dialogue_describe h.cache insertion.type
  have hinsert : insertion.dialogue = (Mapper.whileOpen (insertion.mapper.insertReturning
      server.dialect (Mapper.insertOf insertion.descriptor server.dialect [row]) [key])).dialogue
        cache := by
    have hrow : insertion.type.valuesOf insertion.record
        (Descriptor.build insertion.mapper.tableRule insertion.type).insertable = .ok row := hvalues
    rw [dialogue, Mapper.insert, Action.dialogue_bind, hdescribe]
    simp only [Dialogue.bind, hrow, Action.lift_ok_bind, h.dialect]
    rw [← hkeys]
    rfl
  rw [hinsert]
  refine KeyServer.ends_whileOpen fun now hopen => ?_
  have hcheck : (Mapper.insertOf insertion.descriptor server.dialect [row]).check =
      .ok (Mapper.insertOf insertion.descriptor server.dialect [row]) := by
    have hlength := length_of_takeValues hvalues
    simp [Insert.check, Mapper.insertOf, hlength]
  have hflatten : Bindable
      (Mapper.insertOf insertion.descriptor server.dialect [row]).rows.flatten := by
    simpa [Mapper.insertOf] using hbind
  exact KeyServer.ends_insertReturning hcheck h.table hkey hflatten insertion.mapper cache hopen

end Insertion

/-- **An insert is told the key of its own row, and over Firebird the largest key there is.**  Two
clients insert an entity each into a table that may hold any keys (`SharedTable`), and take turns in
any order (`Clients.run`).  A client whose insertion `Fits` the table is done after five turns, and
when it is done it is `Answered` by the server: it has had one key generated, and in all dialects
but Firebird that is what it was told; over Firebird it was told the largest of the keys that the
table held at some time after its insert.  Of the insert of the other client nothing is assumed. -/
theorem insert_answers_key (server : KeyServer) (insertions : Client → Insertion)
    (start : SharedTable) (schedule : List Client) (who : Client)
    (hfits : (insertions who).Fits server) :
    let final := Clients.run server.answer ⟨fun who => (insertions who).dialogue, start⟩ schedule
    (5 ≤ schedule.count who → ∃ ending, final.dialogue who = .done ending) ∧
      ∀ ending, final.dialogue who = .done ending →
        server.Answered who (start.generated who) ending final.state := by
  intro final
  have hends : Dialogue.Ends (server.answer who) (SharedTable.Beside who)
      (server.Answered who (start.generated who)) (5 - schedule.count who) (final.dialogue who)
      final.state := by
    refine Clients.ends_run ?_ ?_ ?_ ?_ (hfits.ends who start) schedule
    · exact fun _ _ _ => .trans
    · exact fun _ _ _ => .beside
    · exact fun _ hother => KeyServer.beside_answer hother
    · exact .refl
  constructor
  · intro hturns
    rw [Nat.sub_eq_zero_of_le hturns] at hends
    obtain ⟨ending, hdone, -⟩ := hends.exists_done
    exact ⟨ending, hdone⟩
  · intro ending hdone
    rwa [hdone, Dialogue.Ends.done_iff] at hends

namespace Sample

/-- Notes, each with the number after the one before. -/
def numbered (dialect : Dialect) : KeyServer where
  dialect := dialect
  table := "Notes"
  key := "id"
  next t := t.keys.headD 0 + 1

/-- A note that is inserted over a connection. -/
def noted (connection : String) : Insertion :=
  ⟨.standard, .empty, connection, note, noteOf 0 "a"⟩

/-- Two clients who insert a note each into a table without rows, over open connections. -/
def noting (connection : String) : Clients (Except Error Int × Cache) SharedTable :=
  ⟨fun _ => (noted connection).dialogue, ⟨[], fun _ => [], fun _ => true⟩⟩

/-- Turns in which the second client inserts its row between the insert and the query of the
first. -/
def turns : List Client :=
  [.first, .first, .second, .second, .first, .second, .first, .first, .second, .second]

theorem noted_fits {connection : String} {dialect : Dialect}
    (h : Mapper.standard.dialectFor connection = dialect) :
    (noted connection).Fits (numbered dialect) where
  cache := Cache.valid_empty
  dialect := h
  table := by
    have htable : (Descriptor.build pluralTable note).table = "Notes" := by decide +kernel
    exact htable
  key := ⟨_, rfl, rfl⟩
  row := ⟨[_], rfl, by
    intro v hv
    obtain rfl := List.mem_singleton.mp hv
    exact ⟨_, rfl⟩⟩

end Sample

/-- Over SQLite both clients are told the keys of their own notes. -/
theorem insert_answers_key_sqlite :
    let server := Sample.numbered .sqlite
    let final := (Sample.noting "SqliteConnection").run server.answer Sample.turns
    ∀ who, ∃ ending, final.dialogue who = .done ending ∧
      server.Answered who [] ending final.state := by
  intro server final who
  have h := insert_answers_key server (fun _ => Sample.noted "SqliteConnection")
    (Sample.noting "SqliteConnection").state Sample.turns who
    (Sample.noted_fits (by decide +kernel))
  have hturns : 5 ≤ Sample.turns.count who := by cases who <;> decide
  obtain ⟨ending, hdone⟩ := h.1 hturns
  exact ⟨ending, hdone, h.2 ending hdone⟩

/-- Over Firebird the first client is told the key of the second one's note. -/
theorem firebird_answers_other_key :
    let server := Sample.numbered .firebird
    let final := (Sample.noting "FbConnection").run server.answer Sample.turns
    (Sample.noted "FbConnection").Fits server ∧
      final.state.generated .first = [1] ∧ final.state.generated .second = [2] ∧
      ∃ cache, final.dialogue .first = .done (.ok 2, cache) := by
  exact ⟨Sample.noted_fits (by decide +kernel), by decide +kernel, by decide +kernel, _, rfl⟩

end RowMapper
