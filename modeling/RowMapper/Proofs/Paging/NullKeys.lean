import Mathlib.Data.List.Basic
import RowMapper.Proofs.Paging.Traversal

/-!
# A row without a sort key

What a run from page to page makes of a row whose value in the sort column is NULL.  There is one
such row at most, and the database lists it in front of all others or behind them.

* `NullPlace`, `Row.Precedes` — the order of rows with NULL at one end;
* `ServesPlaced` — a connection that answers pages in that order;
* `IsListing.eq_list` — a listing is the rows with a key, and the row without one at its end of
  them;
* `answersAt_keyed` — after a cursor, the row without a key might as well not be there;
* `FirstPage` — what the first page is made of, and what follows from its last row;
* `null_row_traversal` — the run: where it visits the row, where it fails, and where it leaves the
  row out and does not say so.

### Where the row is lost

A cursor is made of the last row of a page, and only that row is asked for a key.  If NULL comes
first, the row stands on the first page, and it is the last row there only if it is alone.  If NULL
comes last, it stands behind the first page as soon as there is another one, and no comparison with
a cursor is ever true of it.
-/

namespace RowMapper

open Sql

/-! ### The order of rows -/

/-- Where a database lists NULL. -/
inductive NullPlace where
  | first
  | last
  deriving DecidableEq, Repr

/-- Some rows and, at their end of them, those without a key. -/
def NullPlace.list {α : Type} : NullPlace → List α → List α → List α
  | first, keyed, null => null ++ keyed
  | last, keyed, null => keyed ++ null

/-- Whether a row has a value in a column. -/
def Row.hasKey (column : String) (row : Row) : Bool := !(row.cell column).isNull

/-- A row comes before another one in an order that has a place for NULL. -/
def Row.Precedes (interpretation : Interpretation) (column : String) (direction : Direction)
    (place : NullPlace) (a b : Row) : Prop :=
  Row.Before interpretation column direction a b ∨
    match place with
    | .first => a.hasKey column = false ∧ b.hasKey column = true
    | .last => a.hasKey column = true ∧ b.hasKey column = false

instance (interpretation : Interpretation) (column : String) (direction : Direction)
    (place : NullPlace) (a b : Row) :
    Decidable (Row.Precedes interpretation column direction place a b) :=
  match place with
  | .first => inferInstanceAs (Decidable (_ ∨ _ ∧ _))
  | .last => inferInstanceAs (Decidable (_ ∨ _ ∧ _))

/-- In such an order a page of a table is answered. -/
structure Sql.Page.IsPlacedAnswer (interpretation : Interpretation) (place : NullPlace)
    (table : List Row) (page : Page) (rows : List Row) : Prop where
  window : ∃ listing, IsListing
    (Row.Precedes interpretation page.orderColumn.name page.direction place)
    (table.filter (Row.satisfies interpretation page.filters)) listing ∧
      rows = page.window.cut listing
  addressable : rows.length < IntRange.int64.most.toNat

/-- If nothing that has a property stands behind something that has not, what has it comes first. -/
theorem eq_filter_append {α : Type} {p : α → Bool} {l : List α}
    (h : l.Pairwise fun a b => ¬ (p a = false ∧ p b = true)) :
    l = l.filter p ++ l.filter fun a => !p a := by
  induction l with
  | nil => rfl
  | cons a l ih =>
      rw [List.pairwise_cons] at h
      cases ha : p a with
      | true =>
          rw [List.filter_cons_of_pos ha, List.filter_cons_of_neg (by simp [ha]), List.cons_append,
            ← ih h.2]
      | false =>
          have hnone : l.filter p = [] := by
            rw [List.filter_eq_nil_iff]
            exact fun b hb hpb => h.1 b hb ⟨ha, hpb⟩
          have hall : (l.filter fun a => !p a) = l := by
            rw [List.filter_eq_self]
            intro b hb
            rw [List.filter_eq_nil_iff] at hnone
            simpa using hnone b hb
          rw [List.filter_cons_of_neg (by simp [ha]), hnone, List.nil_append,
            List.filter_cons_of_pos (by simp [ha]), hall]

section Listing

variable {interpretation : Interpretation} {column : String} {direction : Direction}
  {place : NullPlace} {rows listing : List Row}

/-- A listing of rows in that order is a listing of the rows with a key, and the others at their
end. -/
theorem IsListing.eq_list
    (h : IsListing (Row.Precedes interpretation column direction place) rows listing) :
    listing = place.list (listing.filter (Row.hasKey column))
      (listing.filter fun row => !row.hasKey column) := by
  cases place with
  | first =>
      have hordered : listing.Pairwise fun a b : Row =>
          ¬ ((!a.hasKey column) = false ∧ (!b.hasKey column) = true) := by
        refine h.ordered.imp fun hab hkeys => hab (.inr ?_)
        simpa using hkeys.symm
      have heq := eq_filter_append (p := fun row : Row => !row.hasKey column) hordered
      simp only [Bool.not_not] at heq
      exact heq
  | last =>
      exact eq_filter_append (h.ordered.imp fun hab hkeys => hab (.inr hkeys.symm))

/-- Rows in that order are in the order of their keys. -/
theorem IsListing.before
    (h : IsListing (Row.Precedes interpretation column direction place) rows listing) :
    IsListing (Row.Before interpretation column direction) rows listing where
  perm := h.perm
  ordered := h.ordered.imp fun hab hbefore => hab (.inl hbefore)

end Listing

namespace Selection

/-- A connection answers the pages of a selection from a table, and has a place for NULL. -/
def ServesPlaced {σ : Type} (answer : (c : Call) → σ → c.Answer × σ)
    (interpretation : Interpretation) (place : NullPlace) (table : List Row)
    (selection : Selection) (sort : Property) (direction : Direction) (pageSize : UInt64) : Prop :=
  ∀ (cursor : Option String) (later : Selection) (query : Query) (s : σ),
    selection.after sort direction cursor = .ok later →
    Query.build later.dialect.style
      ((later.request sort direction pageSize).tokens later.dialect.style.paging) = .ok query →
    ∃ rows, (answer (.query (later.mapper.statement query)) s).1 = .ok rows ∧
      (later.request sort direction pageSize).IsPlacedAnswer interpretation place table rows

section Run

variable {σ : Type} {answer : (c : Call) → σ → c.Answer × σ} {selection : Selection}
  {interpretation : Interpretation} {place : NullPlace} {table : List Row} {sort : Property}
  {direction : Direction} {pageSize : UInt64}

/-- A row of which a comparison is true has a key. -/
theorem hasKey_of_satisfies (hnull : interpretation.NullUnknown) {filters : List Condition}
    {comparison : Comparison} {value : Value} {row : Row}
    (h : Row.satisfies interpretation
      (filters ++ [.compare (selection.dialect.column sort.column) comparison value]) row = true) :
    row.hasKey sort.column = true := by
  have hlast := List.all_eq_true.mp h _ (List.mem_append_right _ List.mem_cons_self)
  rw [decide_eq_true_iff] at hlast
  have hvalue := (hnull.isNull_eq_false hlast).1
  rw [name_column] at hvalue
  rw [Row.hasKey, hvalue]
  rfl

/-- **After a cursor, a row without a key might as well not be there.**  Nothing that compares
with it is true. -/
theorem answersAt_keyed (hnull : interpretation.NullUnknown)
    (hserves : selection.ServesPlaced answer interpretation place table sort direction pageSize)
    (token : String) :
    selection.AnswersAt answer interpretation (table.filter (Row.hasKey sort.column)) sort direction
      pageSize (some token) := by
  intro later query s hafter hbuild
  obtain ⟨rows, hrows, ⟨listing, hlisting, hcut⟩, haddressable⟩ :=
    hserves (some token) later query s hafter hbuild
  obtain ⟨comparison, d, -, rfl, -⟩ := exists_of_after hafter
  refine ⟨rows, hrows, ⟨listing, ?_, hcut⟩, haddressable⟩
  have hfilter (filters : List Condition)
      (hfilters : ∀ row, Row.satisfies interpretation filters row = true →
        row.hasKey sort.column = true) :
      (table.filter (Row.hasKey sort.column)).filter (Row.satisfies interpretation filters) =
        table.filter (Row.satisfies interpretation filters) := by
    rw [List.filter_filter]
    refine List.filter_congr fun row _ => ?_
    rw [Bool.and_eq_left_iff_imp]
    exact hfilters row
  have hkeyed := hfilter (selection.filters ++
    [.compare (selection.dialect.column sort.column) comparison d.toValue])
    fun row => hasKey_of_satisfies hnull
  exact hkeyed.symm ▸ hlisting.before

/-- A first page that ends with a row without a key fails, if there are rows behind it. -/
theorem cursorPage_null {rows front : List Row} {last : Row}
    (hkept : rows.take pageSize.toNat = front ++ [last]) (hmore : pageSize.toNat < rows.length)
    (hlast : last.hasKey sort.column = false) :
    selection.cursorPage sort pageSize rows =
      .error (.invalidOperation (.nullSortValue sort.name)) := by
  have hcursor : cursorOf last sort = .error (.invalidOperation (.nullSortValue sort.name)) := by
    unfold cursorOf
    cases hd : last.get? sort.column with
    | none => rfl
    | some d =>
        have hnull : d.isNull = true := by simpa [Row.hasKey, Row.cell, hd] using hlast
        simp [hnull]
  simp only [cursorPage, hkept, List.getLast?_concat, hmore, hcursor, decide_true, if_true]
  rfl

/-- What the first page is made of: the rows with a key in their order, and those without one at
their end of them. -/
structure FirstPage (answer : (c : Call) → σ → c.Answer × σ) (interpretation : Interpretation)
    (place : NullPlace) (table : List Row) (selection : Selection) (sort : Property)
    (direction : Direction) (pageSize : UInt64) (cache : Cache) (s s' : σ)
    (keyed null rows : List Row) : Prop where
  listing : IsListing (Row.Before interpretation sort.column direction)
    ((table.filter (Row.hasKey sort.column)).filter
      (Row.satisfies interpretation selection.filters)) keyed
  unlisted : null.Perm ((table.filter fun row => !row.hasKey sort.column).filter
    (Row.satisfies interpretation selection.filters))
  fetch : selection.fetchOn answer pageSize none (cache, s) =
    (selection.cursorPage sort (max pageSize 1) rows, cache, s')
  kept : rows.take (max pageSize 1).toNat = (place.list keyed null).take (max pageSize 1).toNat
  more : (max pageSize 1).toNat < rows.length ↔
    (max pageSize 1).toNat < (place.list keyed null).length

theorem exists_firstPage (hfault : selection.fault = none)
    (hsort : selection.sort "cursor" = .ok (sort, direction))
    (hbind : Bindable (values (whereTokens selection.filters)))
    (hserves : selection.ServesPlaced answer interpretation place table sort direction pageSize)
    (cache : Cache) (s : σ) :
    ∃ s' keyed null rows, selection.FirstPage answer interpretation place table sort direction
      pageSize cache s s' keyed null rows := by
  have hbuild := build_of_bindable selection.dialect.style _
    (bindable_page (selection.request sort direction pageSize) hbind
      selection.dialect.style.paging)
  obtain ⟨rows, hrows, ⟨listing, hlisting, hcut⟩, haddressable⟩ :=
    hserves none selection _ s rfl hbuild
  have hname : (selection.request sort direction pageSize).orderColumn.name = sort.column :=
    name_column _ _
  rw [hname] at hlisting
  rw [hcut] at haddressable
  obtain ⟨hkept, hmore⟩ := Window.take_cut_extra haddressable
  have hafter : selection.after sort direction none = .ok selection := rfl
  refine ⟨_, listing.filter (Row.hasKey sort.column),
    listing.filter fun row => !row.hasKey sort.column, rows, ?_, ?_,
    fetchOn_of_answer hfault hsort hafter hbuild hrows cache, ?_, ?_⟩
  · rw [List.filter_comm]
    exact hlisting.before.filter (Row.hasKey sort.column)
  · rw [List.filter_comm]
    exact hlisting.perm.filter fun row => !row.hasKey sort.column
  · rw [← hlisting.eq_list, hcut]
    exact hkept
  · rw [← hlisting.eq_list, hcut]
    exact hmore

namespace FirstPage

variable {cache : Cache} {s s' : σ} {keyed null rows : List Row}

/-- The rows with a key are rows of the table, and have one. -/
theorem mem_keyed (h : selection.FirstPage answer interpretation place table sort direction pageSize
    cache s s' keyed null rows) {row : Row} (hrow : row ∈ keyed) :
    row ∈ table.filter (Row.hasKey sort.column) :=
  (List.mem_filter.mp (h.listing.perm.mem_iff.mp hrow)).1

/-- The rows without a key are rows of the table, and have none. -/
theorem mem_null (h : selection.FirstPage answer interpretation place table sort direction pageSize
    cache s s' keyed null rows) {row : Row} (hrow : row ∈ null) :
    row ∈ table ∧ row.hasKey sort.column = false := by
  have hmem := (List.mem_filter.mp (h.unlisted.mem_iff.mp hrow)).1
  simpa using List.mem_filter.mp hmem

/-- **The run behind a first page that ends with a key** visits the other rows with one. -/
theorem exists_traversal_behind
    (h : selection.FirstPage answer interpretation place table sort direction pageSize cache s s'
      keyed null rows)
    (hfault : selection.fault = none)
    (hsort : selection.sort "cursor" = .ok (sort, direction))
    (hbind : Bindable (values (whereTokens selection.filters)))
    (hrows : ∀ row ∈ table, ∃ record, selection.entity row = .ok record)
    (hnull : interpretation.NullUnknown)
    (hkeyed : IsKeyed interpretation sort.column (table.filter (Row.hasKey sort.column)))
    (hserves : selection.ServesPlaced answer interpretation place table sort direction pageSize)
    {front : List Row} (hfront : ∀ row ∈ front, row ∈ table) (count : Nat)
    (hkept : rows.take (max pageSize 1).toNat = front ++ keyed.take count)
    (hmore : (max pageSize 1).toNat < rows.length) (hpos : 0 < count)
    (hcount : count ≤ keyed.length) :
    ∃ pages, Traversal (selection.fetchOn answer pageSize) none (cache, s) pages ∧
      Covers selection (max pageSize 1).toNat (front ++ keyed) pages := by
  -- the last row of the page has a key
  obtain ⟨before, last, hlast⟩ : ∃ before last, keyed.take count = before ++ [last] := by
    have hne : keyed.take count ≠ [] := by
      rw [← List.length_pos_iff, List.length_take]
      omega
    exact ⟨_, _, (List.dropLast_concat_getLast hne).symm⟩
  have hlastMem : last ∈ keyed := List.mem_of_mem_take (i := count) (by simp [hlast])
  obtain ⟨d, hd, hkey⟩ := hkeyed.key last (h.mem_keyed hlastMem)
  obtain ⟨items, hitems⟩ : ∃ items, selection.entities (front ++ keyed.take count) = .ok items := by
    refine exists_mapM_eq_ok fun row hrow => hrows row ?_
    rcases List.mem_append.mp hrow with hrow | hrow
    · exact hfront row hrow
    · exact (List.mem_filter.mp (h.mem_keyed (List.mem_of_mem_take hrow))).1
  have hsplit : front ++ keyed.take count = (front ++ before) ++ [last] := by
    rw [hlast, List.append_assoc]
  rw [hsplit] at hitems hkept
  have hfetch := h.fetch
  rw [cursorPage_behind hkept hmore hd hkey hitems] at hfetch
  -- what is left of the rows with a key is behind its cursor
  have hleft : IsListing (Row.Before interpretation sort.column direction)
      ((table.filter (Row.hasKey sort.column)).filter
        (Row.satisfies interpretation selection.filters))
      ((before ++ [last]) ++ keyed.drop count) := by
    rw [← hlast, List.take_append_drop]
    exact h.listing
  obtain ⟨pages, hrun, hcovers⟩ := exists_traversal_of_answers hfault hsort hbind
    (fun row hrow => hrows row (List.mem_filter.mp hrow).1) hkeyed (answersAt_keyed hnull hserves)
    (.behind before hd) (answersAt_keyed hnull hserves _) hleft cache s'
  refine ⟨_, .more hfetch rfl hrun, ?_⟩
  have hfull : ((front ++ before) ++ [last]).length = (max pageSize 1).toNat := by
    rw [← hkept, List.length_take]
    omega
  have hall : front ++ keyed = ((front ++ before) ++ [last]) ++ keyed.drop count := by
    rw [← hsplit, List.append_assoc, List.take_append_drop]
  rw [hall]
  exact .cons hitems hfull rfl hrun.ne_nil hcovers

/-- The run is that one page, if all rows are on it. -/
theorem exists_traversal_of_fits
    (h : selection.FirstPage answer interpretation place table sort direction pageSize cache s s'
      keyed null rows)
    (hrows : ∀ row ∈ table, ∃ record, selection.entity row = .ok record)
    (hfits : (place.list keyed null).length ≤ (max pageSize 1).toNat) :
    ∃ pages, Traversal (selection.fetchOn answer pageSize) none (cache, s) pages ∧
      Covers selection (max pageSize 1).toNat (place.list keyed null) pages := by
  have hmem : ∀ row ∈ place.list keyed null, row ∈ table := by
    intro row hrow
    have hsome : row ∈ keyed ∨ row ∈ null := by
      cases place with
      | first => exact (List.mem_append.mp hrow).symm
      | last => exact List.mem_append.mp hrow
    exact hsome.elim (fun hrow => (List.mem_filter.mp (h.mem_keyed hrow)).1)
      fun hrow => (h.mem_null hrow).1
  obtain ⟨items, hitems⟩ : ∃ items, selection.entities (place.list keyed null) = .ok items :=
    exists_mapM_eq_ok fun row hrow => hrows row (hmem row hrow)
  have hfetch := h.fetch
  rw [cursorPage_last h.kept h.more hfits hitems] at hfetch
  exact ⟨_, .last hfetch rfl, .single hitems rfl⟩

/-- The first call fails, if the row without a key is alone on the page and there are others. -/
theorem fetchOn_alone {null : Row}
    (h : selection.FirstPage answer interpretation .first table sort direction pageSize cache s s'
      keyed [null] rows)
    (hsize : (max pageSize 1).toNat = 1) (hkeys : keyed ≠ []) :
    (selection.fetchOn answer pageSize none (cache, s)).1 =
      .error (.invalidOperation (.nullSortValue sort.name)) := by
  have hkept : rows.take (max pageSize 1).toNat = [] ++ [null] := by
    rw [h.kept, hsize]
    rfl
  have hmore : (max pageSize 1).toNat < rows.length := by
    rw [h.more, NullPlace.list, List.length_append, List.length_singleton]
    have := List.length_pos_iff.mpr hkeys
    omega
  rw [h.fetch]
  exact cursorPage_null hkept hmore (h.mem_null List.mem_cons_self).2

end FirstPage

/-- **What becomes of a row without a key.**  Let a connection answer pages from a table with NULL
in one place of the order (`ServesPlaced`), where at most one row has no key (`Row.hasKey`) and the
keys of all others are different integers of 32 or 64 bits or texts, and none is lost in a cursor
(`IsKeyed`).  The `Traversal` from the first page on `Covers` every row if there is no such row, if
all rows are on the first page, or if NULL comes first and a page holds more than one row.  If NULL
comes first, a page holds one row and there are others, the first call fails and says why.  But if
NULL comes last and is not on the first page, the traversal meets no error, and it covers the other
rows only. -/
theorem null_row_traversal (pageSize : UInt64) (hfault : selection.fault = none)
    (hsort : selection.sort "cursor" = .ok (sort, direction))
    (hbind : Bindable (values (whereTokens selection.filters)))
    (hrows : ∀ row ∈ table, ∃ record, selection.entity row = .ok record)
    (hnull : interpretation.NullUnknown)
    (hkeyed : IsKeyed interpretation sort.column (table.filter (Row.hasKey sort.column)))
    (hone : (table.filter fun row => !row.hasKey sort.column).length ≤ 1)
    (hserves : selection.ServesPlaced answer interpretation place table sort direction pageSize)
    (cache : Cache) (s : σ) :
    let found := table.filter (Row.satisfies interpretation selection.filters)
    let size := (max pageSize 1).toNat
    ∃ keyed null : List Row,
      keyed.Perm (found.filter (Row.hasKey sort.column)) ∧
      keyed.Pairwise (Row.Before interpretation sort.column direction) ∧
      null.Perm (found.filter fun row => !row.hasKey sort.column) ∧
      (null = [] ∨ keyed.length < size ∨ place = .first ∧ 1 < size →
        ∃ pages, Traversal (selection.fetchOn answer pageSize) none (cache, s) pages ∧
          Covers selection size (place.list keyed null) pages) ∧
      (null ≠ [] → place = .first → size = 1 → keyed ≠ [] →
        (selection.fetchOn answer pageSize none (cache, s)).1 =
          .error (.invalidOperation (.nullSortValue sort.name))) ∧
      (null ≠ [] → place = .last → size ≤ keyed.length →
        ∃ pages, Traversal (selection.fetchOn answer pageSize) none (cache, s) pages ∧
          Covers selection size keyed pages) := by
  intro found size
  obtain ⟨s', keyed, null, rows, hfirst⟩ := exists_firstPage hfault hsort hbind hserves cache s
  have hpos : 0 < size := toNat_max_one_pos pageSize
  have hstrict := (strictOn_before hkeyed.sorts hkeyed.distinct direction).filter
    (Row.satisfies interpretation selection.filters)
  have hlength : null.length ≤ 1 :=
    hfirst.unlisted.length_eq.trans_le ((List.length_filter_le _ _).trans hone)
  -- the run behind the first page, whose last row is one with a key
  have hbehind {front : List Row} (hfront : ∀ row ∈ front, row ∈ table) (count : Nat) :=
    hfirst.exists_traversal_behind hfault hsort hbind hrows hnull hkeyed hserves hfront count
  have hnil : ∀ row ∈ ([] : List Row), row ∈ table := fun row hrow =>
    absurd hrow List.not_mem_nil
  refine ⟨keyed, null, ?_, hfirst.listing.pairwise hstrict, ?_, fun hvisited => ?_,
    fun hne hplace hsize hkeys => ?_, fun hne hplace hsize => ?_⟩
  · rw [List.filter_comm]
    exact hfirst.listing.perm
  · rw [List.filter_comm]
    exact hfirst.unlisted
  · by_cases hfits : (place.list keyed null).length ≤ size
    · exact hfirst.exists_traversal_of_fits hrows hfits
    · have hyes := hfirst.more.mpr (Nat.lt_of_not_le hfits)
      have hkept := hfirst.kept
      cases place with
      | first =>
          rw [NullPlace.list, List.length_append] at hfits
          have hall : null.take size = null := List.take_of_length_le (by omega)
          rw [NullPlace.list, List.take_append, hall] at hkept
          refine hbehind (fun row hrow => (hfirst.mem_null hrow).1) _ hkept hyes ?_ (by omega)
          rcases hvisited with rfl | hshort | ⟨-, htwo⟩
          · exact hpos
          · omega
          · omega
      | last =>
          rw [NullPlace.list, List.length_append] at hfits
          obtain rfl : null = [] := by
            rcases hvisited with hempty | hshort | ⟨hplace, -⟩
            · exact hempty
            · omega
            · cases hplace
          rw [NullPlace.list, List.append_nil] at hkept ⊢
          exact hbehind hnil _ hkept hyes hpos (by simp at hfits; omega)
  · subst hplace
    obtain ⟨row, rfl⟩ : ∃ row, null = [row] :=
      List.length_eq_one_iff.mp (Nat.le_antisymm hlength (List.length_pos_iff.mpr hne))
    exact hfirst.fetchOn_alone hsize hkeys
  · subst hplace
    have hyes : size < rows.length := by
      rw [hfirst.more, NullPlace.list, List.length_append]
      have := List.length_pos_iff.mpr hne
      omega
    have hkept := hfirst.kept
    rw [NullPlace.list, List.take_append_of_le_length hsize] at hkept
    exact hbehind hnil _ hkept hyes hpos hsize

end Run

end Selection

/-! ### Tasks with and without a rank -/

namespace Sample

/-- A task. -/
def taskOf (id : Int64) (rank : FieldValue) : Record :=
  [("id", .present (.int64 id)), ("rank", rank)]

/-- The row of a task. -/
def taskRow (id : Int64) (rank : Option Int64) : Row :=
  ⟨"0", [("id", .int64 (some id)), ("rank", .int64 rank)]⟩

/-- Two tasks, of which one has no rank. -/
def tasks : List Row := [taskRow 2 none, taskRow 1 (some 5)]

/-- The same in the order of their ranks, where NULL comes last. -/
def ranked : List Row := [taskRow 1 (some 5), taskRow 2 none]

/-- All tasks, in the dialect in which names stay bare. -/
def byRank : Selection :=
  ⟨.standard, task, .build pluralTable task, .firebird, [], none, none⟩

/-- What the database answers to the statement of a page of tasks. -/
def respondRanked : List Datum → List Row
  | [key, _, stop] =>
    (ranked.filter fun row => byNumber.holds .gt (row.cell "rank") key = .yes).take (rowCount stop)
  | [_, stop] => ranked.take (rowCount stop)
  | _ => []

/-- A connection to the tasks. -/
def taskConnection : (c : Call) → Unit → c.Answer × Unit
  | .isOpen, s => (true, s)
  | .openUp, s => (.ok (), s)
  | .close, s => (.ok (), s)
  | .query statement, s => (.ok (respondRanked statement.params), s)
  | .exec _, s => (.ok 0, s)

/-- The rows after a key, in the window of a page of one. -/
theorem respondRanked_key (value : Value) :
    respondRanked [boundDatum value, .int64 (some 1), .int64 (some 2)] =
      Window.cut ⟨0, 2⟩
        (ranked.filter (Row.satisfies byNumber [.compare (.plain "rank") .gt value])) := by
  have hrows : (fun row : Row =>
      decide (byNumber.holds .gt (row.cell "rank") (boundDatum value) = .yes)) =
        Row.satisfies byNumber [.compare (.plain "rank") .gt value] := by
    funext row
    rw [Row.satisfies, List.all_cons, List.all_nil, Bool.and_true]
    rfl
  rw [respondRanked, hrows]
  rfl

/-- The connection answers the pages of one task, NULL last. -/
theorem serves_taskConnection :
    byRank.ServesPlaced taskConnection byNumber .last tasks rank .ascending 1 := by
  intro cursor later query s hafter hbuild
  have hlisting : IsListing (Row.Precedes byNumber "rank" .ascending .last) tasks ranked :=
    ⟨by decide, by decide⟩
  cases cursor with
  | none =>
      obtain rfl := Except.ok.inj hafter
      obtain rfl := Except.ok.inj hbuild
      exact ⟨_, rfl, ⟨ranked, hlisting, rfl⟩, by decide⟩
  | some token =>
      obtain ⟨d, -, h⟩ := exists_of_bind_eq_ok hafter
      obtain rfl := Except.ok.inj h
      have hbind : Bindable [d.toValue] := by
        intro v hv
        obtain rfl := List.mem_singleton.mp hv
        exact d.exists_toDatum_toValue
      obtain rfl := Except.ok.inj ((build_of_bindable _ _ (bindable_page
        (Selection.request { byRank with
          filters := [.compare (.plain "rank") .gt d.toValue] } rank .ascending 1) hbind
        .rowsTo)).symm.trans hbuild)
      refine ⟨_, rfl, ⟨_, hlisting.filter _, respondRanked_key d.toValue⟩, ?_⟩
      have hle := List.length_take_le 2 (ranked.filter fun row =>
        byNumber.holds .gt (row.cell "rank") (boundDatum d.toValue) = .yes)
      exact Nat.lt_of_le_of_lt hle (by decide)

theorem entity_tasks : ∀ row ∈ tasks, ∃ record, byRank.entity row = .ok record := by
  intro row hrow
  simp only [tasks, List.mem_cons, List.not_mem_nil, or_false] at hrow
  rcases hrow with rfl | rfl <;> exact ⟨_, rfl⟩

/-- The task that has a rank is found by it. -/
theorem keyed_tasks : IsKeyed byNumber rank.column (tasks.filter (Row.hasKey rank.column)) := by
  refine ⟨?_, by decide, by decide, by decide, by decide⟩
  intro row hrow
  obtain rfl := List.mem_singleton.mp hrow
  exact ⟨_, rfl, trivial⟩

end Sample

/-- Two tasks on pages of one, NULL last: the run ends without an error, and the task without a
rank is on no page. -/
theorem Selection.null_row_traversal_tasks :
    Sample.byRank.ServesPlaced Sample.taskConnection Sample.byNumber .last Sample.tasks Sample.rank
        .ascending 1 ∧
      Sample.taskRow 2 none ∈ Sample.tasks ∧
      ∃ pages, Traversal (Sample.byRank.fetchOn Sample.taskConnection 1) none (.empty, ()) pages ∧
        (pages.flatMap fun page => page.items) = [Sample.taskOf 1 (.present (.int64 5))] := by
  obtain ⟨keyed, null, hranked, -, hunranked, -, -, hlost⟩ :=
    null_row_traversal 1 rfl rfl (fun _ hv => absurd hv List.not_mem_nil) Sample.entity_tasks
      Sample.nullUnknown_byNumber Sample.keyed_tasks (by decide) Sample.serves_taskConnection .empty
      ()
  obtain rfl := List.perm_singleton.mp hranked
  obtain rfl := List.perm_singleton.mp hunranked
  obtain ⟨pages, hrun, hcovers⟩ := hlost (List.cons_ne_nil _ _) rfl (Nat.le_refl 1)
  exact ⟨Sample.serves_taskConnection, List.mem_cons_self, pages, hrun,
    Except.ok.inj hcovers.items.symm⟩

/-- **A row can go missing without an error.**  The task without a rank is in the table, no filter
is against it, and no call of the run fails; but whatever the pages of the run are, it is on none of
them. -/
theorem Selection.null_row_skipped :
    Sample.byRank.filters = [] ∧ Sample.taskRow 2 none ∈ Sample.tasks ∧
      Sample.byRank.entity (Sample.taskRow 2 none) = .ok (Sample.taskOf 2 (.absent .int64)) ∧
      (∃ pages, Traversal (Sample.byRank.fetchOn Sample.taskConnection 1) none (.empty, ()) pages) ∧
      ∀ pages, Traversal (Sample.byRank.fetchOn Sample.taskConnection 1) none (.empty, ()) pages →
        ∀ page ∈ pages, Sample.taskOf 2 (.absent .int64) ∉ page.items := by
  have hbind : Bindable (values (whereTokens Sample.byRank.filters)) :=
    fun _ hv => absurd hv List.not_mem_nil
  have hnil : ∀ row ∈ ([] : List Row), row ∈ Sample.tasks := fun row hrow =>
    absurd hrow List.not_mem_nil
  obtain ⟨s', keyed, null, rows, hfirst⟩ :=
    exists_firstPage rfl rfl hbind Sample.serves_taskConnection .empty ()
  obtain rfl := List.perm_singleton.mp hfirst.listing.perm
  obtain rfl := List.perm_singleton.mp hfirst.unlisted
  obtain ⟨pages, hrun, hcovers⟩ := hfirst.exists_traversal_behind rfl rfl hbind
    Sample.entity_tasks Sample.nullUnknown_byNumber Sample.keyed_tasks Sample.serves_taskConnection
    hnil 1 hfirst.kept (hfirst.more.mpr (by decide)) Nat.one_pos (Nat.le_refl 1)
  have hitems : pages.flatMap (fun page => page.items) =
      [Sample.taskOf 1 (.present (.int64 5))] := Except.ok.inj hcovers.items.symm
  refine ⟨rfl, List.mem_cons_self, rfl, ⟨pages, hrun⟩, fun other hother page hpage hitem => ?_⟩
  obtain rfl := hrun.unique hother
  have hmem : Sample.taskOf 2 (.absent .int64) ∈ pages.flatMap fun page => page.items :=
    List.mem_flatMap.mpr ⟨page, hpage, hitem⟩
  rw [hitems, List.mem_singleton] at hmem
  simp [Sample.taskOf] at hmem

end RowMapper
