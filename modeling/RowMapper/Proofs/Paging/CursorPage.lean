import RowMapper.Proofs.Mapper.Caching
import RowMapper.Proofs.Paging.CursorCodec
import RowMapper.Proofs.Paging.Listing
import RowMapper.Proofs.Sql.Window

/-!
# One page after a cursor

What `Selection.fetchCursor` sends, what it makes of the answer, and which rows of a listing
these are.

* `Selection.cursorPage`, `fetchCursor_eq` — what is made of the rows does not depend on how
  they were fetched;
* `Selection.fetchOn` — the operation on a connection;
* `Selection.request`, `Serves` — the page that is asked for, and a connection that answers it;
* `Window.take_cut_extra` — one row more than a page holds tells whether rows are left;
* `Standing` — a cursor stands behind some rows of a listing;
* `exists_after_of_standing` — the rows of the table that come after it are those that are left;
* `cursorPage_last`, `cursorPage_more` — the page that is made of these, and the cursor behind it.
-/

namespace RowMapper

open Sql

/-! ### The statement and the answer -/

namespace Selection

/-- What is made of the rows of a page and the row after it. -/
def cursorPage (selection : Selection) (sort : Property) (pageSize : UInt64) (rows : List Row) :
    Except Error (CursorPage Record) := do
  let hasNext : Bool := pageSize.toNat < rows.length
  let kept := rows.take pageSize.toNat
  let next ← match kept.getLast? with
    | some last => if hasNext then some <$> cursorOf last sort else pure none
    | none => pure none
  return ⟨← selection.entities kept, pageSize, hasNext, next⟩

/-- The page that is asked for: the rows of one page and the row after it. -/
def request (selection : Selection) (sort : Property) (direction : Direction)
    (pageSize : UInt64) : Page :=
  selection.page sort direction ⟨0, saturatingAdd (max pageSize 1) 1⟩

/-- All that follows the answer is a function of the rows. -/
theorem fetchCursor_eq (selection : Selection) (cursor : Option String) (pageSize : UInt64) :
    selection.fetchCursor cursor pageSize = (do
      selection.check
      let (sort, direction) ← selection.sort "cursor"
      let later ← selection.after sort direction cursor
      let rows ← later.pageRows sort direction ⟨0, saturatingAdd (max pageSize 1) 1⟩
      later.cursorPage sort (max pageSize 1) rows) := by
  refine bind_congr fun _ => bind_congr ?_
  rintro ⟨sort, direction⟩
  refine bind_congr fun later => bind_congr fun rows => ?_
  cases hitems : later.entities (rows.take (max pageSize 1).toNat) <;>
    cases hlast : (rows.take (max pageSize 1).toNat).getLast? with
    | none =>
        simp only [cursorPage, hlast, hitems]
        rfl
    | some last =>
        by_cases hmore : (max pageSize 1).toNat < rows.length
        · cases hcursor : cursorOf last sort <;>
            simp only [cursorPage, hlast, hitems, hmore, hcursor, decide_true, if_true] <;> rfl
        · simp only [cursorPage, hlast, hitems, hmore, decide_false]
          rfl

/-- A page after a cursor, on a connection and with the cache of a mapper. -/
def fetchOn {σ : Type} (selection : Selection) (answer : (c : Call) → σ → c.Answer × σ)
    (pageSize : UInt64) (cursor : Option String) (state : Cache × σ) :
    Except Error (CursorPage Record) × Cache × σ :=
  let ((result, cache), s) :=
    ((selection.fetchCursor cursor pageSize).dialogue state.1).run answer state.2
  (result, cache, s)

section Call

variable {σ : Type} {answer : (c : Call) → σ → c.Answer × σ} {selection later : Selection}
  {sort : Property} {direction : Direction} {cursor : Option String} {pageSize : UInt64}

/-- With an order and a cursor that can be used, a call asks for rows and makes a page of them. -/
theorem fetchOn_of_after (hfault : selection.fault = none)
    (hsort : selection.sort "cursor" = .ok (sort, direction))
    (hafter : selection.after sort direction cursor = .ok later) (state : Cache × σ) :
    selection.fetchOn answer pageSize cursor state =
      Action.on (do
        let rows ← later.pageRows sort direction ⟨0, saturatingAdd (max pageSize 1) 1⟩
        later.cursorPage sort (max pageSize 1) rows) answer state := by
  have hcheck := check_eq_ok hfault
  show (selection.fetchCursor cursor pageSize).on answer state = _
  rw [fetchCursor_eq, Action.on_bind (Action.on_lift hcheck), Action.on_bind (Action.on_lift hsort)]
  dsimp only
  rw [Action.on_bind (Action.on_lift hafter)]

/-- One statement is sent; the page is made of the rows that are answered. -/
theorem fetchOn_of_answer {query : Query} {rows : List Row} {s : σ}
    (hfault : selection.fault = none)
    (hsort : selection.sort "cursor" = .ok (sort, direction))
    (hafter : selection.after sort direction cursor = .ok later)
    (hbuild : Query.build later.dialect.style
      ((later.request sort direction pageSize).tokens later.dialect.style.paging) = .ok query)
    (hrows : (answer (.query (later.mapper.statement query)) s).1 = .ok rows)
    (cache : Cache) :
    selection.fetchOn answer pageSize cursor (cache, s) =
      (later.cursorPage sort (max pageSize 1) rows, cache,
        (answer (.query (later.mapper.statement query)) s).2) := by
  have hpage : (later.pageRows sort direction ⟨0, saturatingAdd (max pageSize 1) 1⟩).on answer
      (cache, s) = (.ok rows, cache, (answer (.query (later.mapper.statement query)) s).2) :=
    Action.on_rows hbuild hrows
  rw [fetchOn_of_after hfault hsort hafter, Action.on_bind hpage]
  rfl

end Call

end Selection

/-! ### One row more than a page -/

namespace Sql

namespace Window

theorem bound_saturatingAdd_one (size : UInt64) :
    bound (saturatingAdd size 1) = min (size.toNat + 1) IntRange.int64.most.toNat := by
  have hmost : IntRange.int64.most.toNat ≤ IntRange.uint64.most.toNat := by decide
  have hone : (1 : UInt64).toNat = 1 := rfl
  rw [bound, IntRange.toNat_clamp _ (by decide) (by decide), toNat_saturatingAdd, hone]
  omega

/-- One row more than a page holds tells whether rows are left after it, whether or not there
are more rows than can be asked for. -/
theorem take_cut_extra {size : UInt64} {listing : List Row}
    (h : (cut ⟨0, saturatingAdd size 1⟩ listing).length < IntRange.int64.most.toNat) :
    (cut ⟨0, saturatingAdd size 1⟩ listing).take size.toNat = listing.take size.toNat ∧
      (size.toNat < (cut ⟨0, saturatingAdd size 1⟩ listing).length ↔
        size.toNat < listing.length) := by
  have hcut : cut ⟨0, saturatingAdd size 1⟩ listing =
      listing.take (min (size.toNat + 1) IntRange.int64.most.toNat) := by
    rw [cut, bound_saturatingAdd_one]
    rfl
  rw [hcut] at h ⊢
  rw [List.length_take] at h ⊢
  refine ⟨?_, by omega⟩
  rw [List.take_take]
  rcases Nat.le_total (size.toNat + 1) IntRange.int64.most.toNat with hle | hle
  · congr 1
    omega
  · -- as many rows as can be asked for were not answered, so these are all
    rw [List.take_of_length_le (by omega), List.take_of_length_le (by omega)]

end Window

end Sql

/-! ### Where a cursor stands -/

theorem Row.filter_satisfies_append (interpretation : Interpretation)
    (filters more : List Condition) (table : List Row) :
    table.filter (Row.satisfies interpretation (filters ++ more)) =
      (table.filter (Row.satisfies interpretation filters)).filter
        (Row.satisfies interpretation more) := by
  rw [List.filter_filter]
  congr 1
  funext row
  rw [Row.satisfies, List.all_append, Bool.and_comm]
  rfl

/-- Rows that are listed by a column without loss: their values in it are integers or texts,
all different, and the database has them in an order. -/
structure IsKeyed (interpretation : Interpretation) (column : String) (table : List Row) :
    Prop where
  key : ∀ row ∈ table, ∃ d, row.get? column = some d ∧ d.IsSortKey
  distinct : (table.map fun row => row.cell column).Nodup
  sorts : interpretation.Sorts (table.map fun row => row.cell column)

/-- A cursor stands behind the rows of a listing that have been seen. -/
inductive Standing (column : String) : List Row → Option String → Prop where
  | start : Standing column [] none
  | behind (seen : List Row) {last : Row} {d : Datum} (h : last.get? column = some d) :
      Standing column (seen ++ [last]) (some (Cursor.encode d))

namespace Selection

/-- Going on after a key is one more condition: that a row comes after it. -/
theorem exists_after_encode (selection : Selection) (interpretation : Interpretation)
    (sort : Property) (direction : Direction) {d : Datum} (hd : d.IsSortKey) :
    ∃ comparison, selection.after sort direction (some (Cursor.encode d)) =
        .ok { selection with filters := selection.filters ++
          [.compare (selection.dialect.column sort.column) comparison d.toValue] } ∧
      ∀ row, Row.satisfies interpretation
          [.compare (selection.dialect.column sort.column) comparison d.toValue] row = true ↔
        interpretation.holds direction.comparison d (row.cell sort.column) = .yes := by
  refine ⟨direction.comparison.flip, ?_, fun row => ?_⟩
  · simp only [after, Cursor.decode_encode hd]
    cases direction <;> rfl
  · have hbound := boundDatum_of_ok (Datum.toDatum_toValue_of_isSortKey hd)
    simp [Row.satisfies, Condition.truth, hbound, interpretation.holds_flip]

theorem exists_after_of_standing {selection : Selection} {interpretation : Interpretation}
    {table seen left : List Row} {sort : Property} {direction : Direction}
    {cursor : Option String} (hbind : Bindable (values (whereTokens selection.filters)))
    (hkeyed : IsKeyed interpretation sort.column table)
    (hlisting : IsListing (Row.Before interpretation sort.column direction)
      (table.filter (Row.satisfies interpretation selection.filters)) (seen ++ left))
    (hstanding : Standing sort.column seen cursor) :
    ∃ filters, selection.after sort direction cursor = .ok { selection with filters } ∧
      Bindable (values (whereTokens filters)) ∧
      IsListing (Row.Before interpretation sort.column direction)
        (table.filter (Row.satisfies interpretation filters)) left := by
  cases hstanding with
  | start => exact ⟨_, rfl, hbind, hlisting⟩
  | @behind seen last d hlast =>
      rw [List.append_assoc, List.singleton_append] at hlisting
      -- the value in the cursor is a key, so it comes back as it was written
      have hmem : last ∈ table :=
        (List.mem_filter.mp (hlisting.perm.mem_iff.mp (by simp))).1
      obtain ⟨d', hd', hkey⟩ := hkeyed.key last hmem
      obtain rfl := Option.some.inj (hlast.symm.trans hd')
      obtain ⟨comparison, hafter, hcompare⟩ :=
        exists_after_encode selection interpretation sort direction hkey
      have hlast : last.cell sort.column = d := by rw [Row.cell, hd', Option.getD_some]
      refine ⟨_, hafter, ?_, ?_⟩
      · rw [values_whereTokens, List.flatMap_append, ← values_whereTokens]
        refine hbind.append fun v hv => ?_
        obtain rfl := List.mem_singleton.mp hv
        exact d.exists_toDatum_toValue
      · have hstrict := (strictOn_before hkeyed.sorts hkeyed.distinct direction).filter
          (Row.satisfies interpretation selection.filters)
        have hback := hlisting.filter_eq_back hstrict (p := Row.satisfies interpretation
          [.compare (selection.dialect.column sort.column) comparison d.toValue]) fun row _ => by
            rw [hcompare, Row.Before, hlast]
        rw [Row.filter_satisfies_append, ← hback]
        exact hlisting.filter _

/-! ### The page of some rows -/

section Page

variable {selection : Selection} {sort : Property} {pageSize : UInt64} {rows left : List Row}
  {items : List Record}

/-- If nothing is left behind the page, no cursor goes on. -/
theorem cursorPage_last (hkept : rows.take pageSize.toNat = left.take pageSize.toNat)
    (hmore : pageSize.toNat < rows.length ↔ pageSize.toNat < left.length)
    (hlast : left.length ≤ pageSize.toNat) (hitems : selection.entities left = .ok items) :
    selection.cursorPage sort pageSize rows = .ok ⟨items, pageSize, false, none⟩ := by
  have hno : ¬ pageSize.toNat < rows.length := by omega
  rw [List.take_of_length_le hlast] at hkept
  simp only [cursorPage, hkept, hno, hitems, decide_false]
  cases left.getLast? <;> rfl

/-- If rows are left behind the page, the key of its last row is in the cursor. -/
theorem cursorPage_behind {front : List Row} {last : Row} {d : Datum}
    (hkept : rows.take pageSize.toNat = front ++ [last]) (hyes : pageSize.toNat < rows.length)
    (hd : last.get? sort.column = some d) (hsort : d.IsSortKey)
    (hitems : selection.entities (front ++ [last]) = .ok items) :
    selection.cursorPage sort pageSize rows =
      .ok ⟨items, pageSize, true, some (Cursor.encode d)⟩ := by
  have hcursor : cursorOf last sort = .ok (Cursor.encode d) := by
    simp [cursorOf, hd, Datum.isNull_of_isSortKey hsort]
  simp only [cursorPage, hkept, List.getLast?_concat, hyes, hcursor, hitems, decide_true, if_true]
  rfl

/-- If rows are left behind the page, its last row is in the cursor. -/
theorem cursorPage_more (hkept : rows.take pageSize.toNat = left.take pageSize.toNat)
    (hmore : pageSize.toNat < rows.length ↔ pageSize.toNat < left.length)
    (hleft : pageSize.toNat < left.length) (hpos : 0 < pageSize.toNat)
    (hkey : ∀ row ∈ left, ∃ d, row.get? sort.column = some d ∧ d.IsSortKey)
    (hitems : selection.entities (left.take pageSize.toNat) = .ok items) :
    ∃ token, selection.cursorPage sort pageSize rows = .ok ⟨items, pageSize, true, some token⟩ ∧
      ∀ seen, Standing sort.column (seen ++ left.take pageSize.toNat) (some token) := by
  have hne : left.take pageSize.toNat ≠ [] := by
    rw [← List.length_pos_iff, List.length_take]
    omega
  obtain ⟨front, last, hfront⟩ : ∃ front last, left.take pageSize.toNat = front ++ [last] :=
    ⟨_, _, (List.dropLast_concat_getLast hne).symm⟩
  obtain ⟨d, hd, hsort⟩ := hkey last (List.mem_of_mem_take (i := pageSize.toNat) (by simp [hfront]))
  rw [hfront] at hkept hitems
  refine ⟨_, cursorPage_behind hkept (hmore.mpr hleft) hd hsort hitems, fun seen => ?_⟩
  rw [hfront, ← List.append_assoc]
  exact .behind _ hd

end Page

/-! ### A step -/

/-- A connection answers the pages of a selection from a table, whatever cursor they go on
after. -/
def Serves {σ : Type} (answer : (c : Call) → σ → c.Answer × σ) (interpretation : Interpretation)
    (table : List Row) (selection : Selection) (sort : Property) (direction : Direction)
    (pageSize : UInt64) : Prop :=
  ∀ (cursor : Option String) (later : Selection) (query : Query) (s : σ),
    selection.after sort direction cursor = .ok later →
    Query.build later.dialect.style
      ((later.request sort direction pageSize).tokens later.dialect.style.paging) = .ok query →
    ∃ rows, (answer (.query (later.mapper.statement query)) s).1 = .ok rows ∧
      (later.request sort direction pageSize).IsAnswer interpretation table rows

/-- A connection answers the page after one cursor from a table. -/
def AnswersAt {σ : Type} (answer : (c : Call) → σ → c.Answer × σ)
    (interpretation : Interpretation) (table : List Row) (selection : Selection) (sort : Property)
    (direction : Direction) (pageSize : UInt64) (cursor : Option String) : Prop :=
  ∀ (later : Selection) (query : Query) (s : σ),
    selection.after sort direction cursor = .ok later →
    Query.build later.dialect.style
      ((later.request sort direction pageSize).tokens later.dialect.style.paging) = .ok query →
    ∃ rows, (answer (.query (later.mapper.statement query)) s).1 = .ok rows ∧
      (later.request sort direction pageSize).IsAnswer interpretation table rows

/-- **One call makes a page of the rows that come next.** -/
theorem fetchOn_of_standing {σ : Type} {answer : (c : Call) → σ → c.Answer × σ}
    {selection : Selection} {interpretation : Interpretation} {table seen left : List Row}
    {sort : Property} {direction : Direction} {cursor : Option String} {pageSize : UInt64}
    (hfault : selection.fault = none)
    (hsort : selection.sort "cursor" = .ok (sort, direction))
    (hbind : Bindable (values (whereTokens selection.filters)))
    (hkeyed : IsKeyed interpretation sort.column table)
    (hanswers : AnswersAt answer interpretation table selection sort direction pageSize cursor)
    (hlisting : IsListing (Row.Before interpretation sort.column direction)
      (table.filter (Row.satisfies interpretation selection.filters)) (seen ++ left))
    (hstanding : Standing sort.column seen cursor) (cache : Cache) (s : σ) :
    ∃ rows s', selection.fetchOn answer pageSize cursor (cache, s) =
        (selection.cursorPage sort (max pageSize 1) rows, cache, s') ∧
      rows.take (max pageSize 1).toNat = left.take (max pageSize 1).toNat ∧
      ((max pageSize 1).toNat < rows.length ↔ (max pageSize 1).toNat < left.length) := by
  obtain ⟨filters, hafter, hbound, hleft⟩ :=
    exists_after_of_standing hbind hkeyed hlisting hstanding
  have hbuild := build_of_bindable selection.dialect.style _
    (bindable_page (request { selection with filters } sort direction pageSize) hbound
      selection.dialect.style.paging)
  obtain ⟨rows, hrows, ⟨listing, hanswer, hcut⟩, haddressable⟩ := hanswers _ _ s hafter hbuild
  have hstrict := (strictOn_before hkeyed.sorts hkeyed.distinct direction).filter
    (Row.satisfies interpretation filters)
  have hname : (request { selection with filters } sort direction pageSize).orderColumn.name =
      sort.column := name_column _ _
  rw [hname] at hanswer
  -- both list the rows that are left, and there is one listing only
  obtain rfl := hanswer.unique hleft hstrict
  rw [hcut] at haddressable
  obtain ⟨hkept, hmore⟩ := Window.take_cut_extra haddressable
  have hfetch := fetchOn_of_answer hfault hsort hafter hbuild hrows cache
  refine ⟨rows, _, hfetch, ?_, ?_⟩
  · rw [hcut]
    exact hkept
  · rw [hcut]
    exact hmore

end Selection

end RowMapper
