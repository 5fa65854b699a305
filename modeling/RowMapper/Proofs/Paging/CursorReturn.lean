import RowMapper.Proofs.Mapper.Course
import RowMapper.Proofs.Paging.CursorPage

/-!
# Cursors that come back

A cursor is made before it is checked and checked after it is read: the value in the sort column is
asked for NULL when a page is cut, and the value in the cursor when the next page is.

* `Selection.fetchOn_cases`, `fetchOn_of_after_error` — what comes of a call, whether its cursor can
  be used or not;
* `exists_after_of_fetchOn`, `exists_last_of_cursorPage` — what a page that was handed out says of
  the call, and its cursor of the last row;
* `fetchOn_ne_invalidCursor` — a cursor that is read back is not refused;
* `cursor_returned` — the rule for the cursor of every page, on every connection.

### Where the two checks disagree

They are the same check if writing keeps what it asks for, so what decides is the text of the value.
Integers, texts and bytes come back as they were, and a finite number as one of its kind, even if
not always the same one.  But an infinite number or one that is no number has no numeral: null
stands in the cursor, and the value that passed the first check fails the second one.
-/

namespace RowMapper

open Sql

namespace Selection

variable {σ : Type} {answer : (c : Call) → σ → c.Answer × σ} {selection later : Selection}
  {sort : Property} {direction : Direction} {cursor : Option String} {pageSize : UInt64}
  {page : CursorPage Record} {token : String} {e : Error}

/-- The rows that a connection answers to the statement of the page after a cursor. -/
def Answers (answer : (c : Call) → σ → c.Answer × σ) (selection : Selection) (sort : Property)
    (pageSize : UInt64) (cursor : Option String) (s : σ) (rows : List Row) : Prop :=
  ∃ direction later query, selection.sort "cursor" = .ok (sort, direction) ∧
    selection.after sort direction cursor = .ok later ∧
    Query.build later.dialect.style
      ((later.request sort direction pageSize).tokens later.dialect.style.paging) = .ok query ∧
    (answer (.query (later.mapper.statement query)) s).1 = .ok rows

/-- A cursor that cannot be used is all that comes of a call. -/
theorem fetchOn_of_after_error (hfault : selection.fault = none)
    (hsort : selection.sort "cursor" = .ok (sort, direction))
    (hafter : selection.after sort direction cursor = .error e) (state : Cache × σ) :
    selection.fetchOn answer pageSize cursor state = (.error e, state) := by
  have hcheck := check_eq_ok hfault
  show (selection.fetchCursor cursor pageSize).on answer state = _
  rw [fetchCursor_eq, Action.on_bind (Action.on_lift hcheck), Action.on_bind (Action.on_lift hsort)]
  dsimp only
  rw [Action.on_bind_error (Action.on_lift_error hafter)]

/-- What comes of a call whose cursor can be used: a page of the rows that are answered, or the
error of a statement that is not built or not answered. -/
theorem fetchOn_cases (hfault : selection.fault = none)
    (hsort : selection.sort "cursor" = .ok (sort, direction))
    (hafter : selection.after sort direction cursor = .ok later) (cache : Cache) (s : σ) :
    (∃ rows, selection.Answers answer sort pageSize cursor s rows ∧
      (selection.fetchOn answer pageSize cursor (cache, s)).1 =
        later.cursorPage sort (max pageSize 1) rows) ∨
    ∃ e, (selection.fetchOn answer pageSize cursor (cache, s)).1 = .error e ∧
      ((∃ v, e = .argument (.unbindable v)) ∨ ∃ message, e = .database message) := by
  cases hbuild : Query.build later.dialect.style
      ((later.request sort direction pageSize).tokens later.dialect.style.paging) with
  | error e =>
      have hpage : (later.pageRows sort direction ⟨0, saturatingAdd (max pageSize 1) 1⟩).on answer
          (cache, s) = (.error e, cache, s) :=
        Action.on_bind_error (Action.on_lift_error hbuild) _
      refine .inr ⟨e, ?_, .inl (exists_unbindable_of_build hbuild)⟩
      rw [fetchOn_of_after hfault hsort hafter, Action.on_bind_error hpage]
  | ok query =>
      cases hrows : (answer (.query (later.mapper.statement query)) s).1 with
      | ok rows =>
          have hfetch := fetchOn_of_answer hfault hsort hafter hbuild hrows cache
          exact .inl ⟨rows, ⟨direction, later, query, hsort, hafter, hbuild, hrows⟩,
            congrArg Prod.fst hfetch⟩
      | error message =>
          have hpage : (later.pageRows sort direction ⟨0, saturatingAdd (max pageSize 1) 1⟩).on
              answer (cache, s) = (.error (.database message), cache,
                (answer (.query (later.mapper.statement query)) s).2) := by
            refine (Action.on_bind (Action.on_lift hbuild) _).trans ?_
            rw [Action.on_query_eq]
            simp only [hrows]
          refine .inr ⟨.database message, ?_, .inr ⟨message, rfl⟩⟩
          rw [fetchOn_of_after hfault hsort hafter, Action.on_bind_error hpage]

/-- A call that ends well has an order and a cursor that can be used. -/
theorem exists_after_of_fetchOn {state : Cache × σ}
    (h : (selection.fetchOn answer pageSize cursor state).1 = .ok page) :
    selection.fault = none ∧ ∃ sort direction later,
      selection.sort "cursor" = .ok (sort, direction) ∧
      selection.after sort direction cursor = .ok later := by
  cases hfault : selection.fault with
  | some fault =>
      have hcheck := check_eq_error hfault
      have hon : selection.fetchOn answer pageSize cursor state = (.error fault, state) := by
        show (selection.fetchCursor cursor pageSize).on answer state = _
        rw [fetchCursor_eq, Action.on_bind_error (Action.on_lift_error hcheck)]
      rw [hon] at h
      cases h
  | none =>
      have hcheck := check_eq_ok hfault
      cases hsort : selection.sort "cursor" with
      | error e =>
          have hon : selection.fetchOn answer pageSize cursor state = (.error e, state) := by
            show (selection.fetchCursor cursor pageSize).on answer state = _
            rw [fetchCursor_eq, Action.on_bind (Action.on_lift hcheck),
              Action.on_bind_error (Action.on_lift_error hsort)]
          rw [hon] at h
          cases h
      | ok order =>
          obtain ⟨sort, direction⟩ := order
          cases hafter : selection.after sort direction cursor with
          | error e =>
              rw [fetchOn_of_after_error hfault hsort hafter] at h
              cases h
          | ok later => exact ⟨rfl, sort, direction, later, rfl, hafter⟩

/-- A cursor that is handed out is that of the last row of the page. -/
theorem exists_last_of_cursorPage {rows : List Row}
    (h : selection.cursorPage sort pageSize rows = .ok page)
    (hnext : page.nextCursor = some token) :
    ∃ last d, (rows.take pageSize.toNat).getLast? = some last ∧ pageSize.toNat < rows.length ∧
      last.get? sort.column = some d ∧ d.isNull = false ∧ token = Cursor.encode d := by
  have hpage {next : Option String} (h : (do
      return (⟨← selection.entities (rows.take pageSize.toNat), pageSize,
        decide (pageSize.toNat < rows.length), next⟩ : CursorPage Record)) = .ok page) :
      next = some token := by
    obtain ⟨items, -, h⟩ := exists_of_bind_eq_ok h
    obtain rfl := Except.ok.inj h
    exact hnext
  unfold cursorPage at h
  dsimp only at h
  split at h
  · rename_i last hlast
    split at h
    · rename_i hmore
      obtain ⟨next, hcursor, h⟩ := exists_of_bind_eq_ok h
      obtain ⟨written, hwritten, rfl⟩ := exists_of_map_eq_ok hcursor
      obtain rfl := Option.some.inj (hpage h)
      unfold cursorOf at hwritten
      split at hwritten
      · rename_i d hd
        split at hwritten
        · cases hwritten
        · rename_i hnull
          exact ⟨last, d, hlast, by simpa using hmore, hd, by simpa using hnull,
            (Except.ok.inj hwritten).symm⟩
      · cases hwritten
    · cases hpage h
  · cases hpage h

/-- A cursor that is not read back is refused. -/
theorem after_of_decode_error (h : Cursor.decode token = .error e) :
    selection.after sort direction (some token) = .error e := by
  simp only [after, h]
  rfl

/-- A call with a cursor that is read back does not end in a refusal of it. -/
theorem fetchOn_ne_invalidCursor {d : Datum} (hfault : selection.fault = none)
    (hsort : selection.sort "cursor" = .ok (sort, direction))
    (hdecode : Cursor.decode token = .ok d) (state : Cache × σ) (fault : CursorFault) :
    (selection.fetchOn answer pageSize (some token) state).1 ≠ .error (.invalidCursor fault) := by
  have hafter : ∃ later, selection.after sort direction (some token) = .ok later := by
    simp only [after, hdecode]
    exact ⟨_, rfl⟩
  obtain ⟨later, hafter⟩ := hafter
  intro h
  have hcases := @fetchOn_cases σ answer selection later sort direction (some token) pageSize hfault
    hsort hafter state.1 state.2
  rcases hcases with ⟨rows, -, hpage⟩ | ⟨e, he, hkind⟩
  · -- what is made of the rows fails over the rows
    cases OverAnswer.cursorPage later sort (max pageSize 1) rows _ (hpage.symm.trans h)
  · obtain rfl := Except.error.inj (he.symm.trans h)
    rcases hkind with ⟨v, hv⟩ | ⟨message, hmessage⟩
    · cases hv
    · cases hmessage

/-- **What becomes of a cursor that is handed out.**  The cursor of a page that `fetchOn` answers is
the text (`Cursor.encode`) of the datum in the sort column of the last row of the page.  Unless this
is an infinite or undefined number (`Datum.isBoundless`), it is read back by `Cursor.decode` as a
datum of the same kind, and as the same one unless it is a floating-point number (`Datum.isReal`),
so no call with it ends in a refusal of the cursor.  But if it is, then every call with it is
refused. -/
theorem cursor_returned {cache : Cache} {s : σ}
    (hfetch : (selection.fetchOn answer pageSize cursor (cache, s)).1 = .ok page)
    (hnext : page.nextCursor = some token) :
    ∃ rows sort last d,
      selection.Answers answer sort pageSize cursor s rows ∧
      (rows.take (max pageSize 1).toNat).getLast? = some last ∧
      last.get? sort.column = some d ∧ d.isNull = false ∧ token = Cursor.encode d ∧
      (d.isBoundless = false →
        (∃ back, Cursor.decode token = .ok back ∧ back.tag = d.tag ∧
          (d.isReal = false → back = d)) ∧
        ∀ {τ : Type} (answer : (c : Call) → τ → c.Answer × τ) (pageSize : UInt64)
          (state : Cache × τ) (fault : CursorFault),
          (selection.fetchOn answer pageSize (some token) state).1 ≠
            .error (.invalidCursor fault)) ∧
      (d.isBoundless = true →
        Cursor.decode token = .error (.invalidCursor .nullValue) ∧
        ∀ {τ : Type} (answer : (c : Call) → τ → c.Answer × τ) (pageSize : UInt64)
          (state : Cache × τ),
          selection.fetchOn answer pageSize (some token) state =
            (.error (.invalidCursor .nullValue), state)) := by
  obtain ⟨hfault, sort, direction, later, hsort, hafter⟩ := exists_after_of_fetchOn hfetch
  rcases fetchOn_cases hfault hsort hafter cache s with ⟨rows, hrows, hpage⟩ | ⟨e, he, -⟩
  · obtain ⟨last, d, hlast, -, hd, hnull, rfl⟩ :=
      exists_last_of_cursorPage (hpage.symm.trans hfetch) hnext
    refine ⟨rows, sort, last, d, hrows, hlast, hd, hnull, rfl, fun hbounded => ?_,
      fun hboundless => ?_⟩
    · obtain ⟨back, hdecode, htag, hsame⟩ := Cursor.exists_decode_encode hnull hbounded
      exact ⟨⟨back, hdecode, htag, hsame⟩, fun answer pageSize state fault =>
        fetchOn_ne_invalidCursor hfault hsort hdecode state fault⟩
    · have hdecode := Cursor.decode_encode_of_boundless hboundless
      exact ⟨hdecode, fun answer pageSize state =>
        fetchOn_of_after_error hfault hsort (after_of_decode_error hdecode) state⟩
  · rw [he] at hfetch
    cases hfetch

end Selection

/-! ### Invoices by their totals -/

namespace Sample

/-- Invoices with a generated key and a total. -/
def invoice : EntityType :=
  { name := "Invoice"
    table := none
    defaultSort := some "total"
    interface := false
    fields :=
      [⟨⟨"id", "id", "i64", true, false, false, false, true⟩, .required .int64⟩,
        ⟨⟨"total", "total", "f64", false, false, false, false, true⟩, .required .double⟩]
    provided := ["id", "total"] }

/-- The row of an invoice. -/
def invoiceRow (id : Int64) (total : Binary64) : Row :=
  ⟨"0", [("id", .int64 (some id)), ("total", .double (some total))]⟩

/-- All invoices, in the dialect in which names stay bare. -/
def byTotal : Selection :=
  ⟨.standard, invoice, .build pluralTable invoice, .firebird, [], none, none⟩

/-- One and a half. -/
def oneAndHalf : Binary64 := ⟨0x3ff8000000000000⟩

/-- The number that is none. -/
def undefinedTotal : Binary64 := ⟨0x7ff8000000000000⟩

/-- A connection that answers every statement with two invoices, of which the first has some
total. -/
def invoiceConnection (total : Binary64) : (c : Call) → Unit → c.Answer × Unit
  | .isOpen, s => (true, s)
  | .openUp, s => (.ok (), s)
  | .close, s => (.ok (), s)
  | .query _, s => (.ok [invoiceRow 1 total, invoiceRow 2 oneAndHalf], s)
  | .exec _, s => (.ok 0, s)

/-- The first page of one invoice. -/
def firstInvoice (total : Binary64) : CursorPage Record :=
  ⟨[[("id", .present (.int64 1)), ("total", .present (.double total))]], 1, true,
    some (Cursor.encode (.double (some total)))⟩

theorem fetchOn_invoices (total : Binary64) :
    (byTotal.fetchOn (invoiceConnection total) 1 none (.empty, ())).1 =
      .ok (firstInvoice total) := rfl

end Sample

/-- The cursor behind an invoice of one and a half can be used. -/
theorem Selection.cursor_returned_invoice :
    ∃ page token back,
      (Sample.byTotal.fetchOn (Sample.invoiceConnection Sample.oneAndHalf) 1 none (.empty, ())).1 =
        .ok page ∧
      page.nextCursor = some token ∧ Cursor.decode token = .ok back ∧ back.tag = "Double" := by
  obtain ⟨rows, sort, last, d, ⟨direction, later, query, hsort, -, -, hrows⟩, hlast, hd, -, -,
    hback, -⟩ := Selection.cursor_returned (Sample.fetchOn_invoices Sample.oneAndHalf) rfl
  obtain ⟨rfl, rfl⟩ := Prod.mk.inj (Except.ok.inj hsort)
  obtain rfl := Except.ok.inj hrows
  obtain rfl := Option.some.inj hlast
  obtain rfl := Option.some.inj hd
  obtain ⟨⟨back, hdecode, htag, -⟩, -⟩ := hback rfl
  exact ⟨_, _, back, Sample.fetchOn_invoices _, rfl, hdecode, htag⟩

/-- The cursor behind an invoice whose total is no number is handed out, and refused when it comes
back. -/
theorem Selection.cursor_refused_invoice :
    ∃ page token,
      (Sample.byTotal.fetchOn (Sample.invoiceConnection Sample.undefinedTotal) 1 none
        (.empty, ())).1 = .ok page ∧
      page.nextCursor = some token ∧
      Cursor.decode token = .error (.invalidCursor .nullValue) ∧
      (Sample.byTotal.fetchOn (Sample.invoiceConnection Sample.undefinedTotal) 1 (some token)
        (.empty, ())).1 = .error (.invalidCursor .nullValue) := by
  have hdecode : Cursor.decode (Cursor.encode (.double (some Sample.undefinedTotal))) =
      .error (.invalidCursor .nullValue) := Cursor.decode_encode_of_boundless rfl
  refine ⟨_, _, Sample.fetchOn_invoices _, rfl, hdecode, ?_⟩
  rw [Selection.fetchOn_of_after_error rfl rfl (Selection.after_of_decode_error hdecode)]

end RowMapper
