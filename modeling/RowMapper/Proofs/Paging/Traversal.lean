import RowMapper.Proofs.Filter.Where
import RowMapper.Proofs.Outcome
import RowMapper.Proofs.Paging.CursorPage

/-!
# From the first page to the last

Pages are fetched one after the other, each with the cursor of the one before it.

* `Traversal` — the pages of a run, which ends where no cursor goes on; `Traversal.unique` —
  there is one run only;
* `Covers` — what pages are of some rows;
* `Selection.exists_traversal_of_standing` — from wherever a cursor stands, a run covers the
  rows that are left;
* `Selection.cursor_traversal` — and so from the start it covers all rows of the selection.

### What carries the run

Between two calls nothing is kept but the cursor.  The invariant is `Standing`: the cursor
names the last row that has been seen of a listing.  A call makes a page of the rows that come
next, and its cursor stands behind these.  As a page holds one row at least, the rows that are
left become fewer, and the run ends.
-/

namespace RowMapper

open Sql

/-! ### Runs -/

section Traversal

variable {α σ : Type} {fetch : Option String → σ → Except Error (CursorPage α) × σ}

/-- A run of calls without an error, each of which goes on after the page before it, up to the
page that no cursor goes on from. -/
inductive Traversal (fetch : Option String → σ → Except Error (CursorPage α) × σ) :
    Option String → σ → List (CursorPage α) → Prop where
  | last {cursor : Option String} {s s' : σ} {page : CursorPage α}
      (h : fetch cursor s = (.ok page, s')) (hnone : page.nextCursor = none) :
      Traversal fetch cursor s [page]
  | more {cursor : Option String} {s s' : σ} {page : CursorPage α} {token : String}
      {pages : List (CursorPage α)} (h : fetch cursor s = (.ok page, s'))
      (hsome : page.nextCursor = some token) (hrest : Traversal fetch (some token) s' pages) :
      Traversal fetch cursor s (page :: pages)

namespace Traversal

theorem ne_nil {cursor : Option String} {s : σ} {pages : List (CursorPage α)}
    (h : Traversal fetch cursor s pages) : pages ≠ [] := by
  cases h <;> simp

/-- A run is determined by where it starts. -/
theorem unique {cursor : Option String} {s : σ} {pages other : List (CursorPage α)}
    (h : Traversal fetch cursor s pages) (hother : Traversal fetch cursor s other) :
    pages = other := by
  induction h generalizing other with
  | last h hnone =>
      cases hother with
      | last h' hnone' =>
          rw [h] at h'
          cases h'
          rfl
      | more h' hsome' hrest' =>
          rw [h] at h'
          cases h'
          rw [hnone] at hsome'
          cases hsome'
  | more h hsome hrest ih =>
      cases hother with
      | last h' hnone' =>
          rw [h] at h'
          cases h'
          rw [hsome] at hnone'
          cases hnone'
      | more h' hsome' hrest' =>
          rw [h] at h'
          cases h'
          rw [hsome] at hsome'
          cases hsome'
          rw [ih hrest']

end Traversal

end Traversal

/-! ### Pages of rows -/

/-- Pages of the entities of rows: together they hold all of them in their order, each but the
last is full, and a cursor goes on where a page follows. -/
structure Covers (selection : Selection) (pageSize : Nat) (rows : List Row)
    (pages : List (CursorPage Record)) : Prop where
  items : rows.mapM selection.entity = .ok (pages.flatMap fun page => page.items)
  full : ∀ page ∈ pages.dropLast, page.items.length = pageSize
  next : ∀ page ∈ pages, page.nextCursor.isSome = page.hasNext

namespace Covers

variable {selection : Selection} {pageSize : Nat} {rows front back : List Row}
  {page : CursorPage Record} {pages : List (CursorPage Record)}

/-- One page of all rows. -/
theorem single (hitems : rows.mapM selection.entity = .ok page.items)
    (hnext : page.nextCursor.isSome = page.hasNext) : Covers selection pageSize rows [page] where
  items := by simpa using hitems
  full := by simp
  next := by simpa using hnext

/-- A full page in front of others. -/
theorem cons (hitems : front.mapM selection.entity = .ok page.items)
    (hfull : front.length = pageSize) (hnext : page.nextCursor.isSome = page.hasNext)
    (hne : pages ≠ []) (hrest : Covers selection pageSize back pages) :
    Covers selection pageSize (front ++ back) (page :: pages) where
  items := by
    rw [List.mapM_append, hitems, hrest.items, List.flatMap_cons]
    rfl
  full := by
    rw [List.dropLast_cons_of_ne_nil hne]
    intro other hother
    rcases List.mem_cons.mp hother with rfl | hother
    · rw [length_of_mapM_eq_ok hitems, hfull]
    · exact hrest.full other hother
  next := by
    intro other hother
    rcases List.mem_cons.mp hother with rfl | hother
    · exact hnext
    · exact hrest.next other hother

end Covers

/-! ### Notes in a table -/

namespace Sample

/-- The same notes as they are stored. -/
def stored : List Row := [noteRow 3 "c", noteRow 1 "a", noteRow 2 "b"]

/-- The number of rows that a bound of a window says. -/
def rowCount (d : Datum) : Nat := ((number? d).getD 0).toNat

/-- What the database answers to the statement of a page, whose parameters are the key of the
cursor, if there is one, and the bounds of the window. -/
def respond : List Datum → List Row
  | [key, _, stop] =>
    (listed.filter fun row => byNumber.holds .gt (row.cell "id") key = .yes).take (rowCount stop)
  | [_, stop] => listed.take (rowCount stop)
  | _ => []

/-- A connection to the notes. -/
def connection : (c : Call) → Unit → c.Answer × Unit
  | .isOpen, s => (true, s)
  | .openUp, s => (.ok (), s)
  | .close, s => (.ok (), s)
  | .query statement, s => (.ok (respond statement.params), s)
  | .exec _, s => (.ok 0, s)

/-- The rows after a key, in the window of a page of two. -/
theorem respond_key (value : Value) :
    respond [boundDatum value, .int64 (some 1), .int64 (some 3)] =
      Window.cut ⟨0, 3⟩
        (listed.filter (Row.satisfies byNumber [.compare (.plain "id") .gt value])) := by
  have hrows : (fun row : Row =>
      decide (byNumber.holds .gt (row.cell "id") (boundDatum value) = .yes)) =
        Row.satisfies byNumber [.compare (.plain "id") .gt value] := by
    funext row
    rw [Row.satisfies, List.all_cons, List.all_nil, Bool.and_true]
    rfl
  rw [respond, hrows]
  rfl

/-- The connection answers the pages of two notes. -/
theorem serves_connection :
    notes.Serves connection byNumber stored key .ascending 2 := by
  intro cursor later query s hafter hbuild
  have hlisting : IsListing (Row.Before byNumber "id" .ascending) stored listed :=
    ⟨by decide, by decide⟩
  cases cursor with
  | none =>
      obtain rfl := Except.ok.inj hafter
      obtain rfl := Except.ok.inj hbuild
      exact ⟨_, rfl, ⟨listed, hlisting, rfl⟩, by decide⟩
  | some token =>
      obtain ⟨d, -, h⟩ := exists_of_bind_eq_ok hafter
      obtain rfl := Except.ok.inj h
      have hbind : Bindable [d.toValue] := by
        intro v hv
        obtain rfl := List.mem_singleton.mp hv
        exact d.exists_toDatum_toValue
      obtain rfl := Except.ok.inj ((build_of_bindable _ _ (bindable_page
        (Selection.request { notes with
          filters := [.compare (.plain "id") .gt d.toValue] } key .ascending 2) hbind
        .rowsTo)).symm.trans hbuild)
      refine ⟨_, rfl, ⟨_, hlisting.filter _, respond_key d.toValue⟩, ?_⟩
      have hle := List.length_take_le 3 (listed.filter fun row =>
        byNumber.holds .gt (row.cell "id") (boundDatum d.toValue) = .yes)
      exact Nat.lt_of_le_of_lt hle (by decide)

end Sample

/-! ### The run of a selection -/

namespace Selection

section Run

variable {σ : Type} {answer : (c : Call) → σ → c.Answer × σ} {selection : Selection}
  {interpretation : Interpretation} {table : List Row} {sort : Property} {direction : Direction}
  {pageSize : UInt64}

/-- A page holds one row at least. -/
theorem toNat_max_one_pos (pageSize : UInt64) : 0 < (max pageSize 1).toNat := by
  rw [toNat_max_one]
  omega

/-- From wherever a cursor stands, a run covers the rows that are left. -/
theorem exists_traversal_of_answers (hfault : selection.fault = none)
    (hsort : selection.sort "cursor" = .ok (sort, direction))
    (hbind : Bindable (values (whereTokens selection.filters)))
    (hrows : ∀ row ∈ table, ∃ record, selection.entity row = .ok record)
    (hkeyed : IsKeyed interpretation sort.column table)
    (hlater : ∀ token, selection.AnswersAt answer interpretation table sort direction pageSize
      (some token))
    {seen left : List Row} {cursor : Option String} (hstanding : Standing sort.column seen cursor)
    (hanswers : selection.AnswersAt answer interpretation table sort direction pageSize cursor)
    (hlisting : IsListing (Row.Before interpretation sort.column direction)
      (table.filter (Row.satisfies interpretation selection.filters)) (seen ++ left))
    (cache : Cache) (s : σ) :
    ∃ pages, Traversal (selection.fetchOn answer pageSize) cursor (cache, s) pages ∧
      Covers selection (max pageSize 1).toNat left pages := by
  obtain ⟨rows, s', hfetch, hkept, hmore⟩ := fetchOn_of_standing hfault hsort hbind hkeyed hanswers
    hlisting hstanding cache s
  have hmem : ∀ row ∈ left, row ∈ table := fun row hrow =>
    (List.mem_filter.mp (hlisting.perm.mem_iff.mp (by simp [hrow]))).1
  have hpos := toNat_max_one_pos pageSize
  by_cases hleft : (max pageSize 1).toNat < left.length
  -- a full page, and the run goes on behind it with fewer rows
  · obtain ⟨items, hitems⟩ :
        ∃ items, selection.entities (left.take (max pageSize 1).toNat) = .ok items :=
      exists_mapM_eq_ok fun row hrow => hrows row (hmem row (List.mem_of_mem_take hrow))
    obtain ⟨token, hpage, hbehind⟩ := cursorPage_more hkept hmore hleft hpos
      (fun row hrow => hkeyed.key row (hmem row hrow)) hitems
    rw [hpage] at hfetch
    have hsplit : seen ++ left = (seen ++ left.take (max pageSize 1).toNat) ++
        left.drop (max pageSize 1).toNat := by
      rw [List.append_assoc, List.take_append_drop]
    rw [hsplit] at hlisting
    obtain ⟨pages, hrun, hcovers⟩ := exists_traversal_of_answers hfault hsort hbind hrows hkeyed
      hlater (hbehind seen) (hlater token) hlisting cache s'
    refine ⟨_, .more hfetch rfl hrun, ?_⟩
    rw [← List.take_append_drop (max pageSize 1).toNat left]
    exact .cons hitems (by rw [List.length_take]; omega) rfl hrun.ne_nil hcovers
  -- the last page
  · obtain ⟨items, hitems⟩ : ∃ items, selection.entities left = .ok items :=
      exists_mapM_eq_ok fun row hrow => hrows row (hmem row hrow)
    rw [cursorPage_last hkept hmore (by omega) hitems] at hfetch
    exact ⟨_, .last hfetch rfl, .single hitems rfl⟩
  termination_by left.length
  decreasing_by
    rw [List.length_drop]
    omega

/-- So it does on a connection that answers all pages. -/
theorem exists_traversal_of_standing (hfault : selection.fault = none)
    (hsort : selection.sort "cursor" = .ok (sort, direction))
    (hbind : Bindable (values (whereTokens selection.filters)))
    (hrows : ∀ row ∈ table, ∃ record, selection.entity row = .ok record)
    (hkeyed : IsKeyed interpretation sort.column table)
    (hserves : selection.Serves answer interpretation table sort direction pageSize)
    {seen left : List Row} {cursor : Option String} (hstanding : Standing sort.column seen cursor)
    (hlisting : IsListing (Row.Before interpretation sort.column direction)
      (table.filter (Row.satisfies interpretation selection.filters)) (seen ++ left))
    (cache : Cache) (s : σ) :
    ∃ pages, Traversal (selection.fetchOn answer pageSize) cursor (cache, s) pages ∧
      Covers selection (max pageSize 1).toNat left pages :=
  exists_traversal_of_answers hfault hsort hbind hrows hkeyed (fun token => hserves (some token))
    hstanding (hserves cursor) hlisting cache s

/-- **A traversal visits every row once.**  Let a connection answer pages from a table (`Serves`),
with rows that can be read and a sort column that keeps them apart (`IsKeyed`).  The `Traversal`
from the first page on, each page by the cursor of the one before, meets no error and ends.  Its
pages are those of a listing (`Covers`) of exactly the rows on which the filters hold, in the order
of the sort column (`Row.Before`): each page but the last is full, and there is a cursor exactly
where there is a next page. -/
theorem cursor_traversal (pageSize : UInt64) (hfault : selection.fault = none)
    (hsort : selection.sort "cursor" = .ok (sort, direction))
    (hbind : Bindable (values (whereTokens selection.filters)))
    (hrows : ∀ row ∈ table, ∃ record, selection.entity row = .ok record)
    (hkeyed : IsKeyed interpretation sort.column table)
    (hserves : selection.Serves answer interpretation table sort direction pageSize)
    (cache : Cache) (s : σ) :
    ∃ (listing : List Row) (pages : List (CursorPage Record)),
      listing.Perm (table.filter (Row.satisfies interpretation selection.filters)) ∧
      listing.Pairwise (Row.Before interpretation sort.column direction) ∧
      Traversal (selection.fetchOn answer pageSize) none (cache, s) pages ∧
      Covers selection (max pageSize 1).toNat listing pages := by
  have hbuild := build_of_bindable selection.dialect.style _
    (bindable_page (selection.request sort direction pageSize) hbind
      selection.dialect.style.paging)
  -- the listing is that of the first page
  obtain ⟨-, -, ⟨listing, hlisting, -⟩, -⟩ := hserves none selection _ s rfl hbuild
  have hname : (selection.request sort direction pageSize).orderColumn.name = sort.column :=
    name_column _ _
  rw [hname] at hlisting
  have hstrict := (strictOn_before hkeyed.sorts hkeyed.distinct direction).filter
    (Row.satisfies interpretation selection.filters)
  obtain ⟨pages, hrun, hcovers⟩ := exists_traversal_of_standing hfault hsort hbind hrows hkeyed
    hserves .start hlisting cache s
  exact ⟨listing, pages, hlisting.perm, hlisting.pairwise hstrict, hrun, hcovers⟩

end Run

/-- Three notes on two pages. -/
theorem cursor_traversal_notes :
    ∃ (listing : List Row) (pages : List (CursorPage Record)),
      listing.Perm (Sample.stored.filter (Row.satisfies Sample.byNumber Sample.notes.filters)) ∧
      listing.Pairwise (Row.Before Sample.byNumber Sample.key.column .ascending) ∧
      Traversal (Sample.notes.fetchOn Sample.connection 2) none (.empty, ()) pages ∧
      Covers Sample.notes 2 listing pages := by
  refine cursor_traversal 2 rfl rfl (fun _ hv => absurd hv List.not_mem_nil) ?_ ?_
    Sample.serves_connection .empty ()
  · intro row hrow
    simp only [Sample.stored, List.mem_cons, List.not_mem_nil, or_false] at hrow
    rcases hrow with rfl | rfl | rfl <;> exact ⟨_, rfl⟩
  · refine ⟨?_, by decide, by decide, by decide, by decide⟩
    intro row hrow
    simp only [Sample.stored, List.mem_cons, List.not_mem_nil, or_false] at hrow
    rcases hrow with rfl | rfl | rfl <;> exact ⟨_, rfl, trivial⟩

end Selection

end RowMapper
