import RowMapper.Entity.Fetch
import RowMapper.Proofs.Sql.Meaning
import RowMapper.Proofs.Sql.Window

/-!
# Windows as a database reads them

A page is a query with something behind it that cuts a window out of its rows.  This module reads
that from the text, with the numbers that are bound to its placeholders, and finds the window that
was meant.

* `WindowClause`, `WindowClause.ofLexemes?` — what cuts out a window, as it is read;
* `WindowClause.rows?` — the rows that it leaves of a result, given the data of the placeholders;
* `Page.windowClause?`, `Page.windowRows?` — the reading of the statement for a page;
* `windowClause?_page` — the text that is written for a window reads as its clause;
* `windowRows?_page` — and this leaves the rows of the window.

### Four clauses, one window

The dialects count from zero or from one, and to the end of the window or its length.  Bounds larger
than the largest signed number are cut down to it.  Nothing is lost by that, as the result is
shorter: a row number is below that bound, so it compares with the bound as it compares with the
number in place of which the bound stands.
-/

namespace RowMapper.Sql

/-! ### Reading -/

/-- What cuts a window out of the rows of a result, with placeholders by their place. -/
inductive WindowClause where
  /-- Some rows are skipped, and some of those behind them are taken. -/
  | skipTake (skipped taken : Nat)
  /-- The rows are numbered from one, and the numbers of those that are left compare with two
  bounds. -/
  | numbered (lower : Comparison) (first : Nat) (upper : Comparison) (last : Nat)
  deriving DecidableEq, Repr

namespace WindowClause

/-- The clause that lexemes are.  The last form is that of rows which a subquery has numbered. -/
def ofLexemes? : List Lexeme → Option WindowClause
  | [.name "LIMIT", .placeholder taken, .name "OFFSET", .placeholder skipped] =>
    some (.skipTake skipped taken)
  | [.name "OFFSET", .placeholder skipped, .name "ROWS", .name "FETCH", .name "NEXT",
      .placeholder taken, .name "ROWS", .name "ONLY"] => some (.skipTake skipped taken)
  | [.name "ROWS", .placeholder first, .name "TO", .placeholder last] =>
    some (.numbered .gte first .lte last)
  | [.closing, .name "AS", .name "__paged", .name "WHERE", .name "__row", .compare lower,
      .placeholder first, .keyword .and, .name "__row", .compare upper, .placeholder last,
      .name "ORDER", .name "BY", .name "__row", .name "ASC"] =>
    some (.numbered lower first upper last)
  | _ => none

/-- The number that is bound to a placeholder. -/
def numberAt? (params : List Datum) (place : Nat) : Option Int :=
  params[place - 1]?.bind Datum.integer?

/-- The rows that a clause leaves of a result. -/
def rows? {α : Type} (params : List Datum) (rows : List α) : WindowClause → Option (List α)
  | skipTake skipped taken => do
    let skipped ← (← numberAt? params skipped).toNat?
    let taken ← (← numberAt? params taken).toNat?
    return (rows.drop skipped).take taken
  | numbered lower first upper last => do
    let first ← numberAt? params first
    let last ← numberAt? params last
    let left := (rows.zipIdx 1).filter fun row =>
      comparesNumbers lower row.2 first && comparesNumbers upper row.2 last
    return left.map (·.1)

end WindowClause

namespace Page

/-- The clause behind the body of a page, as a database reads it. -/
def windowClause? (dialect : Dialect) (page : Page) (sql : String) : Option WindowClause := do
  let body := page.body dialect.style.paging
  let text ← (dialect.style.write body).toList.isPrefixOf? sql.toList
  WindowClause.ofLexemes? (← dialect.style.scan (1 + (values body).length) text)

/-- The rows that a statement for a page leaves of the result of its body. -/
def windowRows? {α : Type} (dialect : Dialect) (page : Page) (query : Query) (rows : List α) :
    Option (List α) := do
  (← page.windowClause? dialect query.sql).rows? query.params rows

end Page

/-! ### What is written behind the body -/

/-- The clause that cuts out windows in a shape, whose placeholders are the one at a place and
the next one. -/
def Paging.clauseAt (place : Nat) : Paging → WindowClause
  | limitOffset => .skipTake (place + 1) place
  | offsetFetch => .skipTake place (place + 1)
  | rowsTo => .numbered .gte place .lte (place + 1)
  | rowNumber => .numbered .gt place .lte (place + 1)

/-- Words with a blank in front of each. -/
def spacedWords (words : List String) : List Char := words.flatMap fun word => ' ' :: word.toList

theorem apart_spacedWords (words : List String) {rest : List Char} (hrest : Apart rest) :
    Apart (spacedWords words ++ rest) := by
  cases words with
  | nil => exact hrest
  | cons word words => exact apart_blank _

theorem apart_lastWords (words : List String) : Apart (spacedWords words) := by
  have h := apart_spacedWords words apart_nil
  rw [List.append_nil] at h
  exact h

section Scan

variable (dialect : Dialect) {place : Nat}

theorem scan_spacedWords {words : List String} (hwords : ∀ word ∈ words, Plain word)
    {rest : List Char} (hrest : Apart rest) :
    dialect.style.scan place (spacedWords words ++ rest) =
      (dialect.style.scan place rest).map (words.map .name ++ ·) := by
  induction words with
  | nil => simp [spacedWords]
  | cons word words ih =>
      have hsplit : spacedWords (word :: words) ++ rest =
          ' ' :: (word.toList ++ (spacedWords words ++ rest)) := by
        simp [spacedWords]
      have htail := ih fun other hother => hwords other (List.mem_cons_of_mem _ hother)
      rw [hsplit, Style.scan_blank, scan_plain dialect (hwords word List.mem_cons_self)
        (apart_spacedWords words hrest), htail, Option.map_map]
      rfl

/-- Words at the end of a text. -/
theorem scan_lastWords {words : List String} (hwords : ∀ word ∈ words, Plain word) :
    dialect.style.scan place (spacedWords words) = some (words.map .name) := by
  rw [← List.append_nil (spacedWords words), scan_spacedWords dialect hwords apart_nil,
    Style.scan_nil, Option.map_some, List.append_nil]

/-- Words and a placeholder behind them. -/
theorem scan_words_mark {words : List String} (hwords : ∀ word ∈ words, Plain word)
    {rest : List Char} (hrest : Apart rest) :
    dialect.style.scan place (spacedWords words ++ ' ' :: (dialect.style.mark place ++ rest)) =
      (dialect.style.scan (place + 1) rest).map
        (words.map .name ++ .placeholder place :: ·) := by
  rw [scan_spacedWords dialect hwords (apart_blank _), Style.scan_blank, scan_mark dialect hrest,
    Option.map_map]
  rfl

/-- A clause with two placeholders, each behind some words, and some words at its end. -/
theorem scan_two_marks {before between after : List String}
    (hbefore : ∀ word ∈ before, Plain word) (hbetween : ∀ word ∈ between, Plain word)
    (hafter : ∀ word ∈ after, Plain word) :
    dialect.style.scan place (spacedWords before ++ ' ' :: (dialect.style.mark place ++
        (spacedWords between ++ ' ' :: (dialect.style.mark (place + 1) ++ spacedWords after)))) =
      some (before.map .name ++ .placeholder place ::
        (between.map .name ++ .placeholder (place + 1) :: after.map .name)) := by
  rw [scan_words_mark dialect hbefore (apart_spacedWords between (apart_blank _)),
    scan_words_mark dialect hbetween (apart_lastWords after), scan_lastWords dialect hafter,
    Option.map_some, Option.map_some]

end Scan

/-- What stands behind numbered rows: a name for them, the bounds and the order. -/
theorem scan_cut_rowNumber (page : Page) (place : Nat) :
    Dialect.sqlServer.style.scan place
        (Dialect.sqlServer.style.writeFrom place (page.cut .rowNumber)) =
      some (.closing :: ["AS", "__paged", "WHERE"].map .name ++ page.rowBounds.lexemes place ++
        [.name "ORDER", .name "BY", .name "__row", .name "ASC"]) := by
  have hreadable : page.rowBounds.Readable .sqlServer :=
    ⟨⟨"__row", rfl, nofun⟩, ⟨"__row", rfl, nofun⟩⟩
  have htext : Dialect.sqlServer.style.writeFrom place (page.cut .rowNumber) =
      ')' :: (spacedWords ["AS", "__paged", "WHERE"] ++ ' ' ::
        (Dialect.sqlServer.style.writeFrom place page.rowBounds.tokens ++
          (spacedWords ["ORDER", "BY"] ++ ' ' ::
            (Page.rowColumn.write Dialect.sqlServer.style.marks ++ spacedWords ["ASC"])))) := by
    simp [Page.cut, orderTokens, separated, Direction.word, writeFrom_append, Style.writeFrom,
      spacedWords, Ident.write, Ident.plain]
  rw [htext, scan_closing, scan_spacedWords _ (by decide) (apart_blank _), Style.scan_blank,
    scans_of_readable .sqlServer hreadable place _ (apart_spacedWords _ (apart_blank _)),
    scan_spacedWords _ (by decide) (apart_blank _), Style.scan_blank, Page.rowColumn,
    scan_quoted .sqlServer "__row" (apart_lastWords ["ASC"]), scan_lastWords _ (by decide)]
  simp

/-- What is written for a window reads as its clause. -/
theorem ofLexemes?_cut (dialect : Dialect) (page : Page) (place : Nat) :
    ∃ lexemes, dialect.style.scan place
        (dialect.style.writeFrom place (page.cut dialect.style.paging)) = some lexemes ∧
      WindowClause.ofLexemes? lexemes = some (dialect.style.paging.clauseAt place) := by
  cases hpaging : dialect.style.paging with
  | limitOffset =>
      have htext : dialect.style.writeFrom place (page.cut .limitOffset) =
          spacedWords ["LIMIT"] ++ ' ' :: (dialect.style.mark place ++
            (spacedWords ["OFFSET"] ++ ' ' :: (dialect.style.mark (place + 1) ++
              spacedWords []))) := by
        simp [Page.cut, Window.clause, Style.writeFrom, spacedWords]
      rw [htext, scan_two_marks dialect (by decide) (by decide) (by decide)]
      exact ⟨_, rfl, rfl⟩
  | offsetFetch =>
      have htext : dialect.style.writeFrom place (page.cut .offsetFetch) =
          spacedWords ["OFFSET"] ++ ' ' :: (dialect.style.mark place ++
            (spacedWords ["ROWS", "FETCH", "NEXT"] ++ ' ' :: (dialect.style.mark (place + 1) ++
              spacedWords ["ROWS", "ONLY"]))) := by
        simp [Page.cut, Window.clause, Style.writeFrom, spacedWords]
      rw [htext, scan_two_marks dialect (by decide) (by decide) (by decide)]
      exact ⟨_, rfl, rfl⟩
  | rowsTo =>
      have htext : dialect.style.writeFrom place (page.cut .rowsTo) =
          spacedWords ["ROWS"] ++ ' ' :: (dialect.style.mark place ++
            (spacedWords ["TO"] ++ ' ' :: (dialect.style.mark (place + 1) ++
              spacedWords []))) := by
        simp [Page.cut, Window.clause, Style.writeFrom, spacedWords]
      rw [htext, scan_two_marks dialect (by decide) (by decide) (by decide)]
      exact ⟨_, rfl, rfl⟩
  | rowNumber =>
      obtain rfl : dialect = .sqlServer := by
        cases dialect <;> first | rfl | cases hpaging
      rw [scan_cut_rowNumber]
      exact ⟨_, rfl, rfl⟩

/-- **The text of a page ends with a clause for its window.** -/
theorem windowClause?_page (dialect : Dialect) (page : Page) :
    page.windowClause? dialect (dialect.style.write (page.tokens dialect.style.paging)) =
      some (dialect.style.paging.clauseAt
        (1 + (values (page.body dialect.style.paging)).length)) := by
  obtain ⟨lexemes, hscan, hread⟩ := ofLexemes?_cut dialect page
    (1 + (values (page.body dialect.style.paging)).length)
  have htext : (dialect.style.write (page.body dialect.style.paging)).toList.isPrefixOf?
      (dialect.style.write (page.tokens dialect.style.paging)).toList =
        some (dialect.style.writeFrom (1 + (values (page.body dialect.style.paging)).length)
          (page.cut dialect.style.paging)) := by
    rw [page.tokens_eq, Style.write, Style.write, String.toList_ofList, String.toList_ofList,
      writeFrom_append]
    exact isPrefixOf?_append _ _
  simp only [Page.windowClause?, htext, hscan, hread, Option.bind_eq_bind, Option.bind_some]

/-! ### What the clause leaves -/

section Rows

variable {α : Type} {rows : List α}

/-- The rows with numbers in a range are a slice of the result. -/
theorem filter_zipIdx (rows : List α) (start first next : Nat) :
    ((rows.zipIdx start).filter fun row => decide (first ≤ row.2 ∧ row.2 < next)).map (·.1) =
      (rows.take (next - start)).drop (first - start) := by
  induction rows generalizing start with
  | nil => simp
  | cons row rows ih =>
      rw [List.zipIdx_cons, List.filter_cons]
      by_cases hnext : start < next
      · obtain ⟨more, hmore⟩ : ∃ more, next - start = more + 1 := ⟨next - start - 1, by omega⟩
        have hrest : next - (start + 1) = more := by omega
        rw [hmore, List.take_succ_cons]
        by_cases hfirst : first ≤ start
        · have hzero : first - start = 0 ∧ first - (start + 1) = 0 := by omega
          rw [if_pos (by simp [hfirst, hnext]), List.map_cons, ih, hrest, hzero.1, hzero.2]
          rfl
        · obtain ⟨skip, hskip⟩ : ∃ skip, first - start = skip + 1 := ⟨first - start - 1, by omega⟩
          have hskipped : first - (start + 1) = skip := by omega
          rw [if_neg (by simp [hfirst]), ih, hrest, hskip, hskipped, List.drop_succ_cons]
      · have hzero : next - start = 0 ∧ next - (start + 1) = 0 := by omega
        rw [if_neg (by simp [hnext]), ih, hzero.1, hzero.2]
        simp

/-- The rows whose numbers compare with two bounds are a slice of the result, if the bounds say of
the numbers that there are that they are in its range. -/
theorem filter_numbered {lower upper : Comparison} {first last : Int} {offset size : Nat}
    (h : ∀ n : Nat, n ≤ rows.length →
      ((comparesNumbers lower n first && comparesNumbers upper n last) = true ↔
        offset < n ∧ n ≤ offset + size)) :
    ((rows.zipIdx 1).filter fun row =>
      comparesNumbers lower row.2 first && comparesNumbers upper row.2 last).map (·.1) =
        (rows.drop offset).take size := by
  have hcongr : (rows.zipIdx 1).filter (fun row =>
      comparesNumbers lower row.2 first && comparesNumbers upper row.2 last) =
        (rows.zipIdx 1).filter fun row =>
          decide (offset + 1 ≤ row.2 ∧ row.2 < offset + size + 1) := by
    refine List.filter_congr ?_
    rintro ⟨row, n⟩ hmem
    obtain ⟨-, hmost, -⟩ := List.mem_zipIdx hmem
    rw [Bool.eq_iff_iff, h n (by omega), decide_eq_true_iff]
    omega
  rw [hcongr, filter_zipIdx, Nat.add_sub_cancel, Nat.add_sub_cancel, List.drop_take,
    Nat.add_sub_cancel_left]

/-- The number that is bound for a count. -/
theorem integer?_rowCount (count : UInt64) :
    (boundDatum (Window.rowCount count)).integer? =
      some ((min count.toNat IntRange.int64.most.toNat : Nat) : Int) := by
  have hmost : min count.toNat IntRange.int64.most.toNat < 2 ^ 63 :=
    Nat.lt_of_le_of_lt (Nat.min_le_right _ _) (by decide)
  show some (Int64.ofInt (IntRange.int64.clamp count.toNat)).toInt = _
  rw [IntRange.clamp_natCast _ (by decide) (by decide), Int64.toInt_ofInt_of_le] <;> omega

/-- The numbers that are bound behind other parameters. -/
theorem numberAt?_bounds (params : List Datum) (bounds : UInt64 × UInt64) :
    let all := params ++ [Window.rowCount bounds.1, Window.rowCount bounds.2].map boundDatum
    WindowClause.numberAt? all (1 + params.length) =
        some ((min bounds.1.toNat IntRange.int64.most.toNat : Nat) : Int) ∧
      WindowClause.numberAt? all (1 + params.length + 1) =
        some ((min bounds.2.toNat IntRange.int64.most.toNat : Nat) : Int) := by
  intro all
  have hfirst : all[1 + params.length - 1]? = some (boundDatum (Window.rowCount bounds.1)) := by
    simp [all]
  have hsecond : all[1 + params.length + 1 - 1]? =
      some (boundDatum (Window.rowCount bounds.2)) := by
    simp [all, Nat.add_comm 1]
  rw [WindowClause.numberAt?, WindowClause.numberAt?, hfirst, hsecond]
  exact ⟨integer?_rowCount _, integer?_rowCount _⟩

/-- **Each of the clauses leaves the rows of the window.** -/
theorem rows?_clauseAt (params : List Datum) (window : Window) (paging : Paging)
    (hlength : rows.length < IntRange.int64.most.toNat) :
    (paging.clauseAt (1 + params.length)).rows?
        (params ++ [Window.rowCount (window.bounds paging).1,
          Window.rowCount (window.bounds paging).2].map boundDatum) rows =
      some ((rows.drop window.offset.toNat).take window.size.toNat) := by
  obtain ⟨hfirst, hsecond⟩ := numberAt?_bounds params (window.bounds paging)
  have hone : (1 : UInt64).toNat = 1 := rfl
  have hmost : IntRange.int64.most.toNat ≤ IntRange.uint64.most.toNat := by decide
  have hslice : (rows.drop (min window.offset.toNat IntRange.int64.most.toNat)).take
      (min window.size.toNat IntRange.int64.most.toNat) =
        (rows.drop window.offset.toNat).take window.size.toNat := by
    have hdrop : rows.drop (min window.offset.toNat IntRange.int64.most.toNat) =
        rows.drop window.offset.toNat := List.drop_eq_drop_iff.mpr (by omega)
    rw [hdrop, List.take_eq_take_iff, List.length_drop]
    omega
  cases paging with
  | limitOffset =>
      rw [Paging.clauseAt, WindowClause.rows?, hfirst, hsecond]
      exact congrArg some hslice
  | offsetFetch =>
      rw [Paging.clauseAt, WindowClause.rows?, hfirst, hsecond]
      exact congrArg some hslice
  | rowsTo =>
      rw [Paging.clauseAt, WindowClause.rows?, hfirst, hsecond]
      refine congrArg some (filter_numbered fun n hn => ?_)
      simp only [comparesNumbers, Bool.and_eq_true, decide_eq_true_iff, Int.ofNat_le,
        Window.bounds, Window.stop, toNat_saturatingAdd, hone]
      omega
  | rowNumber =>
      rw [Paging.clauseAt, WindowClause.rows?, hfirst, hsecond]
      refine congrArg some (filter_numbered fun n hn => ?_)
      simp only [comparesNumbers, Bool.and_eq_true, decide_eq_true_iff, Int.ofNat_le,
        Int.ofNat_lt, Window.bounds, Window.stop, toNat_saturatingAdd]
      omega

/-- **A page is the window of its rows that is asked for**, in every dialect, whatever the numbers
are. -/
theorem windowRows?_page (dialect : Dialect) (page : Page) {query : Query}
    (hbuild : Query.build dialect.style (page.tokens dialect.style.paging) = .ok query)
    (hlength : rows.length < IntRange.int64.most.toNat) :
    page.windowRows? dialect query rows =
      some ((rows.drop page.window.offset.toNat).take page.window.size.toNat) := by
  obtain rfl := Except.ok.inj
    ((build_of_bindable _ _ (bindable_of_build hbuild)).symm.trans hbuild)
  have hrows := rows?_clauseAt ((values (page.body dialect.style.paging)).map boundDatum)
    page.window dialect.style.paging hlength
  rw [List.length_map, ← List.map_append, ← values_cut, ← values_append, ← page.tokens_eq] at hrows
  rw [Page.windowRows?, windowClause?_page]
  exact hrows

end Rows

end RowMapper.Sql
