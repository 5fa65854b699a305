import RowMapper.Proofs.Filter.Where
import RowMapper.Proofs.Sql.PageText
import RowMapper.Proofs.Sql.WindowClause

/-!
# Windows are slices

The dialects have four clauses for a window and bind two numbers in each of them.  Whatever window
is asked for, each of the clauses leaves the same rows of a result.

* `exists_rowCount` — what is bound for a count of rows, and between which bounds;
* `exists_numbers` — the two numbers of a window;
* `windows_agree` — the rows that the statement for a page leaves of a result.

### What is cut down

Three numbers may be too large: a product of two numbers of 64 bits, a sum of two, and either of
them for a database, which takes numbers of 63 bits.  Each is cut down to the largest number that
there is in its place.  The result has fewer rows than the smallest of these, so what is cut down
was behind the end of the result and stays there.
-/

namespace RowMapper.Sql

/-- The number that is bound for a count of rows. -/
theorem exists_rowCount (count : UInt64) :
    ∃ n : Int64, boundDatum (Window.rowCount count) = .int64 (some n) ∧
      0 ≤ n.toInt ∧ n.toInt ≤ IntRange.int64.most := by
  refine ⟨_, rfl, ?_, ?_⟩
  · have hnumber := integer?_rowCount count
    rw [Option.some.inj hnumber]
    exact Int.natCast_nonneg _
  · exact Int.le_of_lt_add_one (Int64.toInt_lt _)

/-- Two numbers are bound for a window. -/
theorem exists_numbers (window : Window) (paging : Paging) :
    ∃ first second : Int64, window.numbers paging = [.int64 (some first), .int64 (some second)] ∧
      (0 ≤ first.toInt ∧ first.toInt ≤ IntRange.int64.most) ∧
      0 ≤ second.toInt ∧ second.toInt ≤ IntRange.int64.most := by
  obtain ⟨first, hfirst, hfirstBounds⟩ := exists_rowCount (window.bounds paging).1
  obtain ⟨second, hsecond, hsecondBounds⟩ := exists_rowCount (window.bounds paging).2
  refine ⟨first, second, ?_, hfirstBounds, hsecondBounds⟩
  rw [Window.numbers, hfirst, hsecond]

/-- **All clauses for windows cut the same slice.**  Whatever window a page has, and in every
dialect, its statement binds two numbers of 64 bits with a sign, and with these numbers its clause,
read off the text by `Page.windowRows?`, leaves exactly the rows of a result that stand in the
window, as if all numbers were unbounded.  If the window is that of a page by its number
(`Window.page`), these are the rows behind all full pages in front of it, as many as there are on a
page. -/
theorem windows_agree (dialect : Dialect) (page : Page)
    (hbind : Bindable (values (whereTokens page.filters))) :
    ∃ (query : Query) (data : List Datum) (first second : Int64),
      Query.build dialect.style (page.tokens dialect.style.paging) = .ok query ∧
      Value.toData (values (whereTokens page.filters)) = .ok data ∧
      query.params = data ++ [.int64 (some first), .int64 (some second)] ∧
      (0 ≤ first.toInt ∧ first.toInt ≤ IntRange.int64.most) ∧
      (0 ≤ second.toInt ∧ second.toInt ≤ IntRange.int64.most) ∧
      ∀ {α : Type} (rows : List α), rows.length < IntRange.int64.most.toNat →
        page.windowRows? dialect query rows =
          some ((rows.drop page.window.offset.toNat).take page.window.size.toNat) ∧
        ∀ number size : UInt64, page.window = .page number size →
          page.windowRows? dialect query rows =
            some ((rows.drop ((number.toNat - 1) * size.toNat)).take size.toNat) := by
  have hdata := toData_of_bindable hbind
  have hbuild := build_page dialect.style page hdata
  obtain ⟨first, second, hnumbers, hfirst, hsecond⟩ :=
    exists_numbers page.window dialect.style.paging
  refine ⟨_, _, first, second, hbuild, hdata, by rw [hnumbers], hfirst, hsecond,
    fun rows hlength => ?_⟩
  have hslice := windowRows?_page dialect page hbuild hlength
  refine ⟨hslice, fun number size hwindow => ?_⟩
  rw [hslice, hwindow, Window.drop_offset_page number size hlength]
  rfl

/-- A page so far behind that the number of rows in front of it has more than 64 bits. -/
theorem windows_agree_far :
    ∃ query, Query.build Dialect.sqlServer.style
        (Page.tokens ⟨"Notes", [.isNotNull (.quoted "id")], .quoted "id", .descending,
          .page 4611686018427387904 16⟩ .rowNumber) = .ok query ∧
      Page.windowRows? .sqlServer ⟨"Notes", [.isNotNull (.quoted "id")], .quoted "id",
        .descending, .page 4611686018427387904 16⟩ query Sample.listed = some [] := by
  obtain ⟨query, -, -, -, hbuild, -, -, -, -, hrows⟩ := windows_agree .sqlServer
    ⟨"Notes", [.isNotNull (.quoted "id")], .quoted "id", .descending, .page 4611686018427387904 16⟩
    fun v hv => absurd hv List.not_mem_nil
  have hlength : Sample.listed.length < IntRange.int64.most.toNat := by decide
  refine ⟨query, hbuild, ((hrows Sample.listed hlength).2 _ _ rfl).trans ?_⟩
  rw [List.drop_of_length_le (by decide +kernel), List.take_nil]

end RowMapper.Sql
