import RowMapper.Proofs.Sqlite.StorageClass
import RowMapper.Sqlite.Connection
import RowMapper.Sqlite.OneTable.Engine

/-!
# Contents through an engine

A statement hands its parameters to an engine as stored values, and its rows are made of the stored
values that the engine answers.  Of the engine nothing is known but that it returns what it stored
(`Engine.Returns`).

* `Engine.ready_of_prepare` and its siblings — where a statement ends before it runs;
* `Connection.Refuses` — a statement that does not run, whatever the engine is;
* `exists_readFields` — the fields of a row of stored values;
* `Engine.Returns.exists_row` — a row that is written and read;
* `content_returned` — the contents of properties there and back.
-/

namespace RowMapper.Sqlite

variable {δ : Type} {engine : Engine δ}

/-! ### Statements on an engine -/

namespace Work

variable {α β : Type} {act : Work δ α} {next : α → Work δ β} {database later : δ}

theorem bind_of_ok {a : α} (h : act database = (.ok a, later)) :
    (act >>= next) database = next a later := by
  show (ExceptT.bindCont next (act database).1) (act database).2 = _
  rw [h]
  rfl

theorem bind_of_error {fault : Fault} (h : act database = (.error fault, later)) :
    (act >>= next) database = (.error fault, later) := by
  show (ExceptT.bindCont next (act database).1) (act database).2 = _
  rw [h]
  rfl

end Work

namespace Engine

variable {statement : Statement} {database ready : δ}

theorem ready_of_waiting_eq_none (h : engine.waiting statement.timeout database = none) :
    engine.ready statement database = (.error .timeoutFailed, database) := by
  have hget : (get : Work δ δ) database = (.ok database, database) := rfl
  rw [Engine.ready, Work.bind_of_ok hget, h]
  rfl

theorem ready_of_prepare_eq_none (h : engine.waiting statement.timeout database = some ready)
    (hprepare : engine.prepare statement.sql ready = none) :
    engine.ready statement database = (.error .prepareFailed, ready) := by
  have hget : (get : Work δ δ) database = (.ok database, database) := rfl
  rw [Engine.ready, Work.bind_of_ok hget, h]
  dsimp only
  rw [Work.bind_of_ok (rfl : (set ready : Work δ PUnit) database = (.ok ⟨⟩, ready)), hprepare]
  rfl

theorem ready_of_prepare {prepared : engine.Prepared}
    (h : engine.waiting statement.timeout database = some ready)
    (hprepare : engine.prepare statement.sql ready = some prepared) :
    engine.ready statement database =
      (Prod.mk prepared <$> statement.params.mapM Stored.ofDatum, ready) := by
  have hget : (get : Work δ δ) database = (.ok database, database) := rfl
  rw [Engine.ready, Work.bind_of_ok hget, h]
  dsimp only
  rw [Work.bind_of_ok (rfl : (set ready : Work δ PUnit) database = (.ok ⟨⟩, ready)), hprepare]
  dsimp only
  cases statement.params.mapM Stored.ofDatum <;> rfl

end Engine

/-! ### Statements that are refused -/

namespace Connection

/-- The connection with a time to wait, if it is open and the time can be set. -/
def awaiting (engine : Engine δ) (connection : Connection δ) (time : Option Nat) : Connection δ :=
  { connection with database := connection.database.map fun database =>
      (engine.waiting time database).getD database }

/-- Whether the connection is open and the text of a statement is one on it. -/
def Prepares (engine : Engine δ) (connection : Connection δ) (statement : Statement) : Prop :=
  ∃ database ready prepared, connection.database = some database ∧
    engine.waiting statement.timeout database = some ready ∧
    engine.prepare statement.sql ready = some prepared

/-- A statement that ends before it runs, whether it is to answer rows or a number.  Nothing happens
to the database but that the time to wait is set. -/
structure Refuses (engine : Engine δ) (connection : Connection δ) (statement : Statement)
    (fault : Fault) : Prop where
  query : connection.query engine statement =
    (.error fault, connection.awaiting engine statement.timeout)
  exec : connection.exec engine statement =
    (.error fault, connection.awaiting engine statement.timeout)

variable {connection : Connection δ} {statement : Statement}

theorem refuses_of_closed (h : connection.database = none) :
    connection.Refuses engine statement .closed := by
  have hsame : connection.awaiting engine statement.timeout = connection := by
    rw [awaiting, h, Option.map_none, ← h]
  refine ⟨?_, ?_⟩
  · rw [query, work, h, hsame]
  · rw [exec, work, h, hsame]

/-- What is not ready does not run. -/
theorem refuses_of_ready_eq_error {database ready : δ} {fault : Fault}
    (hdatabase : connection.database = some database)
    (hwaiting : (engine.waiting statement.timeout database).getD database = ready)
    (h : engine.ready statement database = (.error fault, ready)) :
    connection.Refuses engine statement fault := by
  have hlater : connection.awaiting engine statement.timeout =
      { connection with database := some ready } := by
    rw [awaiting, hdatabase, Option.map_some, hwaiting]
  refine ⟨?_, ?_⟩
  · rw [query, work, hdatabase, hlater]
    dsimp only
    rw [Engine.queryRows, Work.bind_of_error h]
  · rw [exec, work, hdatabase, hlater]
    dsimp only
    rw [Engine.execCount, Work.bind_of_error h]

end Connection

/-- Parameters one of which has no place are not all converted, and the error says which one. -/
theorem exists_mapM_ofDatum_eq_error {params : List Datum} {n : UInt64} (hn : 2 ^ 63 ≤ n.toNat)
    (hmem : .uint64 (some n) ∈ params) :
    ∃ m : UInt64, .uint64 (some m) ∈ params ∧ 2 ^ 63 ≤ m.toNat ∧
      params.mapM Stored.ofDatum = .error (.outOfRange m) := by
  cases hparams : params.mapM Stored.ofDatum with
  | ok values =>
      obtain ⟨stored, -, hstored⟩ := (mem_of_mapM_eq_ok hparams).2 _ hmem
      rw [Stored.ofDatum_eq_error_iff.mpr ⟨n, rfl, hn, rfl⟩] at hstored
      cases hstored
  | error fault =>
      obtain ⟨d, hd, hfault⟩ := exists_of_mapM_eq_error hparams
      obtain ⟨m, rfl, hm, rfl⟩ := Stored.ofDatum_eq_error_iff.mp hfault
      exact ⟨m, hd, hm, rfl⟩

/-- **A statement with an integer beyond 64 bits with a sign does not run**, on any connection of
any engine.  If it is a statement at all, the error names such an integer of its parameters. -/
theorem Connection.exists_refused {n : UInt64} (hn : 2 ^ 63 ≤ n.toNat) (engine : Engine δ)
    (connection : Connection δ) {statement : Statement}
    (hmem : .uint64 (some n) ∈ statement.params) :
    ∃ fault, connection.Refuses engine statement fault ∧
      (connection.Prepares engine statement → ∃ m : UInt64, .uint64 (some m) ∈ statement.params ∧
        2 ^ 63 ≤ m.toNat ∧ fault = .outOfRange m) ∧
      (¬ connection.Prepares engine statement →
        fault = .closed ∨ fault = .timeoutFailed ∨ fault = .prepareFailed) := by
  -- the connection, the time, the text and the parameters are looked at in this order
  cases hdatabase : connection.database with
  | none =>
      refine ⟨.closed, refuses_of_closed hdatabase, ?_, fun _ => .inl rfl⟩
      rintro ⟨database, -, -, hopen, -⟩
      rw [hdatabase] at hopen
      cases hopen
  | some database =>
      cases hwaiting : engine.waiting statement.timeout database with
      | none =>
          refine ⟨.timeoutFailed, refuses_of_ready_eq_error hdatabase (by rw [hwaiting]; rfl)
            (Engine.ready_of_waiting_eq_none hwaiting), ?_, fun _ => .inr (.inl rfl)⟩
          rintro ⟨other, ready, -, hother, hready, -⟩
          obtain rfl := Option.some.inj (hdatabase.symm.trans hother)
          rw [hwaiting] at hready
          cases hready
      | some ready =>
          have hgetD : (engine.waiting statement.timeout database).getD database = ready := by
            rw [hwaiting]
            rfl
          cases hprepare : engine.prepare statement.sql ready with
          | none =>
              refine ⟨.prepareFailed, refuses_of_ready_eq_error hdatabase hgetD
                (Engine.ready_of_prepare_eq_none hwaiting hprepare), ?_, fun _ => .inr (.inr rfl)⟩
              rintro ⟨other, ready', prepared, hother, hready, hprepared⟩
              obtain rfl := Option.some.inj (hdatabase.symm.trans hother)
              obtain rfl := Option.some.inj (hwaiting.symm.trans hready)
              rw [hprepare] at hprepared
              cases hprepared
          | some prepared =>
              obtain ⟨m, hm, hwide, hparams⟩ := exists_mapM_ofDatum_eq_error hn hmem
              have hready := Engine.ready_of_prepare hwaiting hprepare
              rw [hparams] at hready
              exact ⟨.outOfRange m, refuses_of_ready_eq_error hdatabase hgetD hready,
                fun _ => ⟨m, hm, hwide, rfl⟩,
                fun hnot => absurd ⟨database, ready, prepared, hdatabase, hwaiting, hprepare⟩ hnot⟩

/-! ### Rows that are written and read -/

/-- On a database, a statement writes a row of values, and another one reads it.  The values come
back unchanged, unless one of them is a floating-point number. -/
def Engine.Returns (engine : Engine δ) (write read : String) (columns : List String)
    (database : δ) : Prop :=
  ∃ writing, engine.prepare write database = some writing ∧
    ∀ values : List Stored, values.length = columns.length →
      (∀ value ∈ values, value.isReal = false) →
      ∃ count later, engine.exec writing values database = (some count, later) ∧
        ∃ reading after, engine.prepare read later = some reading ∧
          engine.columns reading = columns ∧
          engine.query reading [] later = (some ⟨[values], true⟩, after)

section Rows

open Stored

/-- The fields of a row have what comes back of the data that were stored, under the names of the
columns. -/
theorem exists_readFields {columns : List String} {params : List Datum} {values : List Stored}
    (hlength : params.length = columns.length) (hvalues : params.mapM ofDatum = .ok values)
    (hkeeps : ∀ d ∈ params, ∃ later, Keeps d later) :
    ∃ fields, readFields columns values = .ok fields ∧ fields.map (·.1) = columns ∧
      ∀ column d, (column, d) ∈ columns.zip params →
        ∃ later, Keeps d later ∧ (column, later) ∈ fields := by
  induction columns generalizing params values with
  | nil => exact ⟨[], rfl, rfl, fun _ _ hmem => absurd hmem List.not_mem_nil⟩
  | cons column columns ih =>
      cases params with
      | nil => cases hlength
      | cons d params =>
          rw [List.mapM_cons] at hvalues
          obtain ⟨stored, hstored, hvalues⟩ := exists_of_bind_eq_ok hvalues
          obtain ⟨rest, hrest, hvalues⟩ := exists_of_bind_eq_ok hvalues
          obtain rfl := Except.ok.inj hvalues
          obtain ⟨later, hlater⟩ := hkeeps d List.mem_cons_self
          have hback : stored.toDatum = .ok later := by
            have hreturned := hlater.returned_eq
            rw [returned, hstored] at hreturned
            exact hreturned
          obtain ⟨fields, hfields, hnames, hall⟩ := ih (Nat.succ.inj hlength) hrest
            fun other hother => hkeeps other (List.mem_cons_of_mem d hother)
          refine ⟨(column, later) :: fields, ?_, congrArg (column :: ·) hnames, ?_⟩
          · rw [readFields, hback, hfields]
            rfl
          · intro name other hmem
            rcases List.mem_cons.mp hmem with heq | hmem
            · cases heq
              exact ⟨later, hlater, List.mem_cons_self⟩
            · obtain ⟨back, hback, hfound⟩ := hall name other hmem
              exact ⟨back, hback, List.mem_cons_of_mem _ hfound⟩

/-- Data that are kept are stored as values that are no floating-point numbers. -/
theorem exists_mapM_ofDatum {params : List Datum} (h : ∀ d ∈ params, ∃ later, Keeps d later) :
    ∃ values, params.mapM ofDatum = .ok values ∧ values.length = params.length ∧
      ∀ value ∈ values, value.isReal = false := by
  obtain ⟨values, hvalues⟩ := exists_mapM_eq_ok fun d hd => by
    obtain ⟨later, stored, hstored, -⟩ := h d hd
    exact ⟨stored, hstored⟩
  refine ⟨values, hvalues, length_of_mapM_eq_ok hvalues, fun value hvalue => ?_⟩
  obtain ⟨d, hd, hstored⟩ := (mem_of_mapM_eq_ok hvalues).1 value hvalue
  obtain ⟨later, stored, hsame, hreal, -⟩ := h d hd
  obtain rfl := Except.ok.inj (hstored.symm.trans hsame)
  exact hreal

/-- **A row of data that are kept is written and read.**  The statement that writes it succeeds, and
the one that reads it answers a row that has what comes back of each datum under the name of its
column. -/
theorem Engine.Returns.exists_row {write read : String} {columns : List String} {database : δ}
    (h : engine.Returns write read columns database) (path : String) {params : List Datum}
    (hlength : params.length = columns.length) (hkeeps : ∀ d ∈ params, ∃ later, Keeps d later) :
    ∃ count written row after,
      Connection.exec engine ⟨path, some database⟩ ⟨write, params, none⟩ = (.ok count, written) ∧
      written.query engine ⟨read, [], none⟩ = (.ok [row], after) ∧
      row.fields.map (·.1) = columns ∧
      ∀ column d, (column, d) ∈ columns.zip params →
        ∃ later, Keeps d later ∧ (column, later) ∈ row.fields := by
  obtain ⟨writing, hwriting, hwrites⟩ := h
  obtain ⟨values, hvalues, hsame, hreal⟩ := exists_mapM_ofDatum hkeeps
  obtain ⟨count, later, hexec, reading, after, hreading, rfl, hquery⟩ :=
    hwrites values (hsame.trans hlength) hreal
  obtain ⟨fields, hfields, hnames, hall⟩ := exists_readFields hlength hvalues hkeeps
  refine ⟨count, ⟨path, some later⟩, ⟨"0", fields⟩, ⟨path, some after⟩, ?_, ?_, hnames, hall⟩
  · have hready : engine.ready ⟨write, params, none⟩ database = (.ok (writing, values), database) :=
      (Engine.ready_of_prepare rfl hwriting).trans (by rw [hvalues]; rfl)
    rw [Connection.exec, Connection.work]
    dsimp only
    rw [Engine.execCount, Work.bind_of_ok hready]
    dsimp only
    rw [Work.attempt, hexec]
  · have hready : engine.ready ⟨read, [], none⟩ later = (.ok (reading, []), later) :=
      Engine.ready_of_prepare rfl hreading
    have hattempt : Work.attempt .queryFailed (engine.query reading []) later =
        (.ok ⟨[values], true⟩, after) := by
      rw [Work.attempt, hquery]
    have hrows : readRows (engine.columns reading) [values] = .ok [⟨"0", fields⟩] := by
      rw [readRows]
      show List.mapM _ [(values, 0)] = _
      rw [List.mapM_cons]
      dsimp only
      rw [hfields]
      rfl
    rw [Connection.query, Connection.work]
    dsimp only
    rw [Engine.queryRows, Work.bind_of_ok hready]
    dsimp only
    rw [Work.bind_of_ok hattempt]
    dsimp only
    rw [hrows]
    rfl

end Rows

/-! ### The contents of properties -/

open Stored in
/-- **Contents survive the storage classes.**  Take a content of a property whose values are truth
values, integers, texts, bytes, dates, times, or both without a time zone, or the lack of one.  It
is bound as a datum.  This is stored (`Stored.ofDatum`) as no floating-point number, and what comes
back (`Stored.toDatum`) is fetched as the content, through a column of any row; it is the datum
itself if that is of the kind that belongs to its class, and of another kind otherwise.  So if an
engine returns what it stored, the content is fetched from a row that a statement reads after
another one has written it, among any other data that are kept.  The only exception is an integer of
64 bits without a sign that does not fit with a sign.  It has no place at all, and on no engine does
a statement run that has it among its parameters. -/
theorem content_returned {type : FieldType} {scalar : ScalarType}
    (htype : type = .required scalar ∨ type = .optional scalar) (hkept : scalar ∈ ScalarType.kept)
    {content : FieldValue} (hcontent : type.admits content = true) :
    ∃ bound, content.toValue.toDatum = .ok bound ∧
      ((∀ n, content = .present (.uint64 n) → n.toNat < 2 ^ 63) →
        ∃ stored later, ofDatum bound = .ok stored ∧ stored.isReal = false ∧
          stored.toDatum = .ok later ∧
          (∀ (own : OwnTypes) (row : Row) (column property : String),
            row.get? column = some later →
              fetchColumn own row column property type = .ok content) ∧
          (Native bound → later = bound) ∧ (¬ Native bound → later.tag ≠ bound.tag) ∧
          ∀ {δ : Type} (engine : Engine δ) (write read : String) (columns : List String)
            (database : δ), engine.Returns write read columns database → columns.Nodup →
            ∀ (path column : String) (params : List Datum), params.length = columns.length →
              (∀ d ∈ params, ∃ later, Keeps d later) → (column, bound) ∈ columns.zip params →
              ∃ count written row after,
                Connection.exec engine ⟨path, some database⟩ ⟨write, params, none⟩ =
                  (.ok count, written) ∧
                written.query engine ⟨read, [], none⟩ = (.ok [row], after) ∧
                ∀ (own : OwnTypes) (property : String),
                  fetchColumn own row column property type = .ok content) ∧
      (∀ n, content = .present (.uint64 n) → 2 ^ 63 ≤ n.toNat →
        ofDatum bound = .error (.outOfRange n) ∧
        ∀ {δ : Type} (engine : Engine δ) (connection : Connection δ) (statement : Statement),
          bound ∈ statement.params →
          ∃ fault, connection.Refuses engine statement fault ∧
            (connection.Prepares engine statement →
              ∃ m : UInt64, .uint64 (some m) ∈ statement.params ∧ 2 ^ 63 ≤ m.toNat ∧
                fault = .outOfRange m) ∧
            (¬ connection.Prepares engine statement →
              fault = .closed ∨ fault = .timeoutFailed ∨ fault = .prepareFailed)) := by
  by_cases hroom : ∀ n, content = .present (.uint64 n) → n.toNat < 2 ^ 63
  · obtain ⟨bound, later, hbound, hlater, hfetch⟩ :=
      exists_keeps_content htype hkept hcontent hroom
    obtain ⟨stored, hstored, hreal, hback⟩ := id hlater
    have hcolumn (own : OwnTypes) (row : Row) (column property : String)
        (hrow : row.get? column = some later) :
        fetchColumn own row column property type = .ok content := by
      simp only [fetchColumn, hfetch own row column hrow]
    refine ⟨bound, hbound, fun _ => ⟨stored, later, hstored, hreal, hback, hcolumn, ?_, ?_, ?_⟩, ?_⟩
    · intro hnative
      exact Except.ok.inj (hlater.returned_eq.symm.trans hnative.returned_eq)
    · exact fun hnative => tag_ne_of_not_native hnative hlater.returned_eq
    · intro δ engine write read columns database hreturns hnodup path column params hlength hkeeps
        hmem
      obtain ⟨count, written, row, after, hexec, hquery, hnames, hall⟩ :=
        hreturns.exists_row path hlength hkeeps
      refine ⟨count, written, row, after, hexec, hquery, fun own property => ?_⟩
      obtain ⟨later', hlater', hfound⟩ := hall column bound hmem
      obtain rfl := Except.ok.inj (hlater.returned_eq.symm.trans hlater'.returned_eq)
      exact hcolumn own row column property (Row.get?_of_mem (hnames ▸ hnodup) hfound)
    · intro n hn hwide
      exact absurd (hroom n hn) (Nat.not_lt.mpr hwide)
  · obtain ⟨n, rfl, hwide⟩ : ∃ n, content = .present (.uint64 n) ∧ ¬ n.toNat < 2 ^ 63 := by
      simpa using hroom
    have hwide := Nat.not_lt.mp hwide
    refine ⟨.uint64 (some n), rfl, fun h => absurd h hroom, ?_⟩
    intro m hm _
    obtain rfl : n = m := by simpa using hm
    exact ⟨ofDatum_eq_error_iff.mpr ⟨n, rfl, hwide, rfl⟩,
      fun engine connection statement hmem => connection.exists_refused hwide engine hmem⟩

/-- The table of a database returns what it keeps: it has no types that would change a value. -/
theorem OneTable.returns_engine (directories : List String) :
    (OneTable.engine directories).Returns "INSERT INTO t VALUES (?, ?)"
      "SELECT a, b FROM t ORDER BY rowid" ["a", "b"] ⟨some [], 0, true⟩ := by
  have hwrite : Statement.read? "INSERT INTO t VALUES (?, ?)" = some (.insert .param .param) := by
    decide
  have hread : Statement.read? "SELECT a, b FROM t ORDER BY rowid" = some .selectAll := by decide
  have hprepare {sql : String} {statement : Statement} (rows : List (Stored × Stored))
      (changes : Nat) (hsql : Statement.read? sql = some statement)
      (hadmits : ∀ database : Database, database.table.isSome = true →
        database.admits statement = true) :
      (OneTable.engine directories).prepare sql ⟨some rows, changes, true⟩ = some statement := by
    show Database.prepare sql _ = _
    rw [Database.prepare, hsql, Option.filter_some, if_pos (hadmits _ rfl)]
  refine ⟨_, hprepare [] 0 hwrite fun _ h => h, fun values hlength _ => ?_⟩
  match values, hlength with
  | [a, b], _ =>
      exact ⟨1, ⟨some [(a, b)], 1, true⟩, rfl, _, ⟨some [(a, b)], 1, true⟩,
        hprepare [(a, b)] 1 hread fun _ h => h, rfl, rfl⟩

/-- A truth value comes back as an integer from the row that it was written to, a time within a leap
second as a text, and the lack of bytes as the lack of a text; and the last integer of 64 bits is
refused by a statement that would answer it. -/
theorem content_returned_edges :
    (∃ count written row after,
      Connection.exec (OneTable.engine []) ⟨memoryPath, some ⟨some [], 0, true⟩⟩
          ⟨"INSERT INTO t VALUES (?, ?)", [.boolean (some true), .time (some "23:59:60.500")],
            none⟩ = (.ok count, written) ∧
        written.query (OneTable.engine []) ⟨"SELECT a, b FROM t ORDER BY rowid", [], none⟩ =
          (.ok [row], after) ∧
        fetchColumn .unknown row "a" "paid" (.required .bool) = .ok (.present (.bool true))) ∧
    (∃ stored later, Stored.ofDatum (.time (some "23:59:60.500")) = .ok stored ∧
      stored.toDatum = .ok later ∧
      ∀ row : Row, row.get? "at" = some later →
        fetchColumn .unknown row "at" "at" (.optional .time) =
          .ok (.present (.time ⟨23, 59, 59, 1500000000, by decide⟩))) ∧
    (∃ stored later, Stored.ofDatum (.binary none) = .ok stored ∧ stored.toDatum = .ok later ∧
      ∀ row : Row, row.get? "seal" = some later →
        fetchColumn .unknown row "seal" "seal" (.optional .bytes) = .ok (.absent .bytes)) ∧
    Connection.query (OneTable.engine []) ⟨memoryPath, some (.empty true)⟩
        ⟨"SELECT ?", [.uint64 (some 18446744073709551615)], none⟩ =
      (.error (.outOfRange 18446744073709551615), ⟨memoryPath, some (.empty true)⟩) := by
  refine ⟨?_, ?_, ?_, ?_⟩
  · obtain ⟨bound, hbound, hroom, -⟩ :=
      @content_returned (.required .bool) .bool (.inl rfl) (by decide) (.present (.bool true)) rfl
    obtain rfl := Except.ok.inj hbound
    obtain ⟨-, -, -, -, -, -, -, -, hengine⟩ := hroom nofun
    have hkeeps : ∀ d ∈ [Datum.boolean (some true), .time (some "23:59:60.500")],
        ∃ later, Stored.Keeps d later := List.forall_mem_cons.mpr
      ⟨⟨_, _, rfl, rfl, rfl⟩, List.forall_mem_singleton.mpr ⟨_, Stored.keeps_of_text rfl⟩⟩
    obtain ⟨count, written, row, after, hexec, hquery, hfetch⟩ :=
      hengine (OneTable.engine []) _ _ _ _ (OneTable.returns_engine []) (by decide) memoryPath "a"
        [.boolean (some true), .time (some "23:59:60.500")] rfl hkeeps List.mem_cons_self
    exact ⟨count, written, row, after, hexec, hquery, hfetch .unknown "paid"⟩
  · obtain ⟨bound, hbound, hroom, -⟩ := @content_returned (.optional .time) .time (.inr rfl)
      (by decide) (.present (.time ⟨23, 59, 59, 1500000000, by decide⟩)) rfl
    obtain rfl := Except.ok.inj hbound
    obtain ⟨stored, later, hstored, -, hlater, hfetch, -⟩ := hroom nofun
    exact ⟨stored, later, hstored, hlater, fun row hrow => hfetch .unknown row "at" "at" hrow⟩
  · obtain ⟨bound, hbound, hroom, -⟩ := @content_returned (.optional .bytes) .bytes (.inr rfl)
      (by decide) (.absent .bytes) rfl
    obtain rfl := Except.ok.inj hbound
    obtain ⟨stored, later, hstored, -, hlater, hfetch, -⟩ := hroom nofun
    exact ⟨stored, later, hstored, hlater, fun row hrow => hfetch .unknown row "seal" "seal" hrow⟩
  · obtain ⟨bound, hbound, -, hrefused⟩ := @content_returned (.required .uint64) .uint64 (.inl rfl)
      (by decide) (.present (.uint64 18446744073709551615)) rfl
    obtain rfl := Except.ok.inj hbound
    obtain ⟨fault, hrefuses, hprepared, -⟩ := (hrefused _ rfl (by decide)).2 (OneTable.engine [])
      ⟨memoryPath, some (.empty true)⟩ ⟨"SELECT ?", [.uint64 (some 18446744073709551615)], none⟩
      List.mem_cons_self
    have hecho : OneTable.Database.prepare "SELECT ?" (.empty true) =
        some (.echo [(false, "?")]) := by decide
    obtain ⟨m, hm, -, rfl⟩ := hprepared ⟨_, _, _, rfl, rfl, hecho⟩
    obtain rfl : m = 18446744073709551615 := by simpa using hm
    exact hrefuses.query

end RowMapper.Sqlite
