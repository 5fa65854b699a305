import RowMapper.Proofs.Filter.Where
import RowMapper.Proofs.Mapper.Caching
import RowMapper.Proofs.Sql.WindowClause

/-!
# Pages by their number

Pages are fetched by their number, as long as each says that another one follows.

* `PagedList.hasNext_iff` — another page follows if rows are left behind this one;
* `ServesPages` — a connection that counts some rows and answers windows of them;
* `Selection.exists_fetchPage` — one call makes a page of the rows at its place;
* `PageRun`, `PageRun.unique` — the calls from a page on, as long as another one follows;
* `Partition` — what pages are of some rows;
* `Selection.exists_pageRun` — from every page on, the pages are a partition of the rows there;
* `Selection.pages_partition` — and so from the first page on they are one of all rows.

### What carries the run

A call keeps nothing from the one before it.  The number says where the page stands, which is behind
as many full pages as there are before it, and the count says whether another one follows.  So the
run is an induction on the rows behind a place, and a number counts as its place plus one.
-/

namespace RowMapper

open Sql

/-! ### What a page says about the next one -/

namespace PagedList

variable {α : Type}

theorem totalPages_of_pos {list : PagedList α} (h : 0 < list.itemsPerPage.toNat) :
    list.totalPages =
      (list.totalItems.toNat + list.itemsPerPage.toNat - 1) / list.itemsPerPage.toNat := by
  have hne : list.itemsPerPage ≠ 0 := by
    rintro hzero
    rw [hzero] at h
    exact absurd h (by decide)
  rw [totalPages, if_neg hne]

/-- Another page follows if the pages up to this one cannot hold all items. -/
theorem hasNext_iff {list : PagedList α} (h : 0 < list.itemsPerPage.toNat) :
    list.hasNext = true ↔
      list.page.toNat * list.itemsPerPage.toNat < list.totalItems.toNat := by
  rw [hasNext, decide_eq_true_iff, totalPages_of_pos h, Nat.lt_iff_add_one_le,
    Nat.le_div_iff_mul_le h, Nat.add_mul, Nat.one_mul]
  omega

/-- Behind all pages no items are left. -/
theorem totalItems_le_of_totalPages_lt {list : PagedList α} (h : 0 < list.itemsPerPage.toNat)
    {number : Nat} (hnumber : list.totalPages < number) :
    list.totalItems.toNat ≤ (number - 1) * list.itemsPerPage.toNat := by
  rw [totalPages_of_pos h, Nat.div_lt_iff_lt_mul h] at hnumber
  rw [Nat.sub_mul]
  omega

end PagedList

/-! ### One page -/

section Page

variable {σ : Type} {answer : (c : Call) → σ → c.Answer × σ} {selection : Selection}
  {sort : Property} {direction : Direction} {listing : List Row}

/-- A connection answers the count of a selection with the number of some rows, and each of its
pages with those of the rows that the clause of the statement leaves. -/
structure ServesPages (answer : (c : Call) → σ → c.Answer × σ) (selection : Selection)
    (sort : Property) (direction : Direction) (listing : List Row) : Prop where
  count : ∀ (query : Query) (s : σ),
    Query.build selection.dialect.style (selection.select .count []).tokens = .ok query →
    ∃ rows d, (answer (.query (selection.mapper.statement query)) s).1 = .ok rows ∧
      rows.head?.bind Row.first? = some d ∧ d.integer? = some (listing.length : Int)
  page : ∀ (window : Window) (query : Query) (s : σ),
    Query.build selection.dialect.style
      ((selection.page sort direction window).tokens selection.dialect.style.paging) = .ok query →
    ∃ rows, (answer (.query (selection.mapper.statement query)) s).1 = .ok rows ∧
      (selection.page sort direction window).windowRows? selection.dialect query listing =
        some rows

/-- An integer that is answered for a count is taken as it is. -/
theorem Datum.identity_of_integer? {d : Datum} {n : Int} (h : d.integer? = some n)
    (hrange : IntRange.int64.contains n = true) : d.identity = .ok n := by
  have hfetch : d.fetchInt64 = .ok n := by
    rw [fetchInt64, h]
    exact if_pos hrange
  unfold integer? at h
  split at h
  -- five kinds of data hold integers, and no other
  case h_6 => cases h
  all_goals simp [identity, isNull, hfetch]

namespace Selection

/-- The count is that of the rows. -/
theorem exists_countRows (hserves : ServesPages answer selection sort direction listing)
    (hbind : Bindable (values (whereTokens selection.filters)))
    (hlength : listing.length < IntRange.int64.most.toNat) (state : Cache × σ) :
    ∃ total later, selection.countRows.on answer state = (.ok total, later) ∧
      total.toNat = listing.length := by
  rw [← values_count (.plain selection.descriptor.table)] at hbind
  have hbuild := build_of_bindable selection.dialect.style (selection.select .count []).tokens hbind
  obtain ⟨rows, d, hanswer, hfirst, hcount⟩ := hserves.count _ state.2 hbuild
  have hrange : IntRange.int64.contains listing.length = true :=
    (IntRange.contains_iff _ _).mpr ⟨by simp [IntRange.int64], by omega⟩
  have hnumber := Datum.identity_of_integer? hcount hrange
  obtain ⟨later, hrows⟩ : ∃ later, (selection.rows (selection.select .count []).tokens).on answer
      state = (.ok rows, later) := ⟨_, Action.on_rows hbuild hanswer⟩
  refine ⟨UInt64.ofNat listing.length, later, ?_, ?_⟩
  · rw [countRows, Action.on_bind hrows]
    simp only [hfirst]
    rw [Action.on_bind (Action.on_lift hnumber)]
    rfl
  · rw [UInt64.toNat_ofNat']
    exact Nat.mod_eq_of_lt (Nat.lt_trans hlength (by decide))

/-- **One call makes a page of the rows at its place**, which is behind as many full pages as there
are before it.  It says how many rows there are, and whether some are left behind it. -/
theorem exists_fetchPage (hfault : selection.fault = none)
    (hsort : selection.sort "paged" = .ok (sort, direction))
    (hbind : Bindable (values (whereTokens selection.filters)))
    (hrows : ∀ row ∈ listing, ∃ record, selection.entity row = .ok record)
    (hlength : listing.length < IntRange.int64.most.toNat)
    (hserves : ServesPages answer selection sort direction listing) {number perPage : UInt64}
    {before n : Nat} (hnumber : (max number 1).toNat = before + 1)
    (hn : (max perPage 1).toNat = n) (state : Cache × σ) :
    ∃ page later, (selection.fetchPage number perPage).on answer state = (.ok page, later) ∧
      page.itemsPerPage.toNat = n ∧ page.totalItems.toNat = listing.length ∧
      (page.hasNext = true ↔ (before + 1) * n < listing.length) ∧
      ((listing.drop (before * n)).take n).mapM selection.entity = .ok page.items := by
  have hcheck := check_eq_ok hfault
  obtain ⟨total, counted, hcount, htotal⟩ := exists_countRows hserves hbind hlength state
  let window := Window.page (max number 1) (max perPage 1)
  have hbuild := build_of_bindable selection.dialect.style _
    (bindable_page (selection.page sort direction window) hbind selection.dialect.style.paging)
  obtain ⟨rows, hanswer, hwindow⟩ := hserves.page window _ counted.2 hbuild
  obtain ⟨later, hpage⟩ : ∃ later, (selection.pageRows sort direction window).on answer counted =
      (.ok rows, later) := ⟨_, Action.on_rows hbuild hanswer⟩
  -- the window that was asked for, though its offset may have been cut down
  have hslice : rows = (listing.drop (before * n)).take n := by
    have hdrop : listing.drop window.offset.toNat = listing.drop (before * n) := by
      rw [Window.drop_offset_page _ _ hlength, hnumber, hn, Nat.add_sub_cancel]
    rw [windowRows?_page selection.dialect _ hbuild hlength] at hwindow
    rw [← hdrop, ← hn]
    exact (Option.some.inj hwindow).symm
  obtain ⟨items, hitems⟩ : ∃ items, selection.entities rows = .ok items := by
    refine exists_mapM_eq_ok fun row hrow => hrows row ?_
    rw [hslice] at hrow
    exact List.mem_of_mem_drop (List.mem_of_mem_take hrow)
  have hpos : 0 < (max perPage 1).toNat := by
    rw [toNat_max_one]
    omega
  refine ⟨⟨items, max number 1, max perPage 1, total⟩, later, ?_, hn, htotal, ?_, ?_⟩
  · rw [fetchPage, Action.on_bind (Action.on_lift hcheck), Action.on_bind (Action.on_lift hsort)]
    dsimp only
    rw [Action.on_bind hcount, Action.on_bind hpage, Action.on_bind (Action.on_lift hitems)]
    rfl
  · rw [PagedList.hasNext_iff hpos, hnumber, hn, htotal]
  · rw [← hslice]
    exact hitems

end Selection

end Page

/-! ### Runs -/

section Run

variable {α σ : Type} {fetch : UInt64 → σ → Except Error (PagedList α) × σ}

/-- A run of calls without an error, from a number on, up to the page that no other one follows. -/
inductive PageRun (fetch : UInt64 → σ → Except Error (PagedList α) × σ) :
    UInt64 → σ → List (PagedList α) → Prop where
  | last {number : UInt64} {s later : σ} {page : PagedList α}
      (h : fetch number s = (.ok page, later)) (hno : page.hasNext = false) :
      PageRun fetch number s [page]
  | more {number : UInt64} {s later : σ} {page : PagedList α} {pages : List (PagedList α)}
      (h : fetch number s = (.ok page, later)) (hyes : page.hasNext = true)
      (hrest : PageRun fetch (number + 1) later pages) : PageRun fetch number s (page :: pages)

namespace PageRun

theorem ne_nil {number : UInt64} {s : σ} {pages : List (PagedList α)}
    (h : PageRun fetch number s pages) : pages ≠ [] := by
  cases h <;> simp

/-- A run is determined by where it starts. -/
theorem unique {number : UInt64} {s : σ} {pages other : List (PagedList α)}
    (h : PageRun fetch number s pages) (hother : PageRun fetch number s other) :
    pages = other := by
  induction h generalizing other with
  | last h hno =>
      cases hother with
      | last h' hno' =>
          rw [h] at h'
          cases h'
          rfl
      | more h' hyes' hrest' =>
          rw [h] at h'
          cases h'
          rw [hno] at hyes'
          cases hyes'
  | more h hyes hrest ih =>
      cases hother with
      | last h' hno' =>
          rw [h] at h'
          cases h'
          rw [hyes] at hno'
          cases hno'
      | more h' hyes' hrest' =>
          rw [h] at h'
          cases h'
          rw [ih hrest']

end PageRun

end Run

/-! ### Pages of rows -/

/-- Pages of the entities of rows: together they hold all of them in their order, there are as many
as it takes, each but the last is full, and each tells the same about all items. -/
structure Partition (selection : Selection) (perPage total : Nat) (rows : List Row)
    (pages : List (PagedList Record)) : Prop where
  items : rows.mapM selection.entity = .ok (pages.flatMap fun page => page.items)
  number : pages.length = max 1 ((rows.length + perPage - 1) / perPage)
  full : ∀ page ∈ pages.dropLast, page.items.length = perPage
  size : ∀ page ∈ pages, page.itemsPerPage.toNat = perPage
  total : ∀ page ∈ pages, page.totalItems.toNat = total

namespace Partition

variable {selection : Selection} {perPage total : Nat} {rows front back : List Row}
  {page : PagedList Record} {pages : List (PagedList Record)}

/-- One page of all rows. -/
theorem single (hitems : rows.mapM selection.entity = .ok page.items) (hpos : 0 < perPage)
    (hlast : rows.length ≤ perPage) (hsize : page.itemsPerPage.toNat = perPage)
    (htotal : page.totalItems.toNat = total) : Partition selection perPage total rows [page] where
  items := by simpa using hitems
  number := by
    have hone : (rows.length + perPage - 1) / perPage < 2 := by
      rw [Nat.div_lt_iff_lt_mul hpos]
      omega
    rw [List.length_singleton]
    omega
  full := by simp
  size := by simpa using hsize
  total := by simpa using htotal

/-- A full page in front of others. -/
theorem cons (hitems : front.mapM selection.entity = .ok page.items) (hpos : 0 < perPage)
    (hfull : front.length = perPage) (hne : pages ≠ []) (hback : back ≠ [])
    (hsize : page.itemsPerPage.toNat = perPage) (htotal : page.totalItems.toNat = total)
    (hrest : Partition selection perPage total back pages) :
    Partition selection perPage total (front ++ back) (page :: pages) where
  items := by
    rw [List.mapM_append, hitems, hrest.items, List.flatMap_cons]
    rfl
  number := by
    have hback := List.length_pos_iff.mpr hback
    have hmore : (front ++ back).length + perPage - 1 = back.length + perPage - 1 + perPage := by
      rw [List.length_append, hfull]
      omega
    have hone : 1 ≤ (back.length + perPage - 1) / perPage := by
      rw [Nat.le_div_iff_mul_le hpos]
      omega
    rw [List.length_cons, hrest.number, hmore, Nat.add_div_right _ hpos]
    omega
  full := by
    rw [List.dropLast_cons_of_ne_nil hne]
    exact List.forall_mem_cons.mpr ⟨(length_of_mapM_eq_ok hitems).trans hfull, hrest.full⟩
  size := List.forall_mem_cons.mpr ⟨hsize, hrest.size⟩
  total := List.forall_mem_cons.mpr ⟨htotal, hrest.total⟩

end Partition

/-! ### The run of a selection -/

namespace Selection

section Run

variable {σ : Type} {answer : (c : Call) → σ → c.Answer × σ} {selection : Selection}
  {sort : Property} {direction : Direction} {listing : List Row}

/-- From every page on, a run partitions the rows behind the pages before it. -/
theorem exists_pageRun (hfault : selection.fault = none)
    (hsort : selection.sort "paged" = .ok (sort, direction))
    (hbind : Bindable (values (whereTokens selection.filters)))
    (hrows : ∀ row ∈ listing, ∃ record, selection.entity row = .ok record)
    (hlength : listing.length < IntRange.int64.most.toNat)
    (hserves : ServesPages answer selection sort direction listing) {number perPage : UInt64}
    {before n : Nat} (hnumber : number.toNat = before + 1) (hn : (max perPage 1).toNat = n)
    (hpos : 0 < n) (state : Cache × σ) :
    ∃ pages, PageRun (fun number => (selection.fetchPage number perPage).on answer) number state
        pages ∧
      Partition selection n listing.length (listing.drop (before * n)) pages := by
  have hplace : (max number 1).toNat = before + 1 := by
    rw [toNat_max_one]
    omega
  obtain ⟨page, later, hfetch, hsize, htotal, hnext, hitems⟩ := exists_fetchPage hfault hsort hbind
    hrows hlength hserves hplace hn state
  have hstep : (before + 1) * n = before * n + n := Nat.succ_mul before n
  by_cases hmore : (before + 1) * n < listing.length
  -- a full page, and the run goes on with the next number
  · have hle : before + 1 ≤ (before + 1) * n := Nat.le_mul_of_pos_right _ hpos
    have hsucc : (number + 1).toNat = before + 1 + 1 := by
      have hmost : IntRange.int64.most.toNat < 2 ^ 64 := by decide
      have hone : (1 : UInt64).toNat = 1 := rfl
      rw [UInt64.toNat_add, hnumber, hone]
      exact Nat.mod_eq_of_lt (Nat.lt_of_le_of_lt (by omega) hmost)
    obtain ⟨pages, hrun, hrest⟩ := exists_pageRun hfault hsort hbind hrows hlength hserves hsucc hn
      hpos later
    have hsplit : listing.drop (before * n) =
        (listing.drop (before * n)).take n ++ listing.drop ((before + 1) * n) := by
      rw [hstep, ← List.drop_drop, List.take_append_drop]
    have hfull : ((listing.drop (before * n)).take n).length = n := by
      rw [List.length_take, List.length_drop]
      omega
    have hback : listing.drop ((before + 1) * n) ≠ [] := by
      rw [← List.length_pos_iff, List.length_drop]
      omega
    refine ⟨_, .more hfetch (hnext.mpr hmore) hrun, ?_⟩
    rw [hsplit]
    exact .cons hitems hpos hfull hrun.ne_nil hback hsize htotal hrest
  -- the last page holds all that is left
  · have hno : page.hasNext = false := by
      rw [Bool.eq_false_iff, ne_eq, hnext]
      exact hmore
    have hleft : (listing.drop (before * n)).length ≤ n := by
      rw [List.length_drop]
      omega
    rw [List.take_of_length_le hleft] at hitems
    exact ⟨_, .last hfetch hno, .single hitems hpos hleft hsize htotal⟩
  termination_by listing.length - before

/-- **Pages partition the result.**  Let a connection count a listing and answer windows of it
(`ServesPages`).  The `PageRun` that fetches pages by their number from the first one on, as long as
another one follows, meets no error and ends.  Its pages are a `Partition` of the listing: they hold
the entities of its rows in their order, they are as many as it takes, each but the last is full,
and each tells the number of all rows.  Whatever number is behind the last page, there is nothing on
its page. -/
theorem pages_partition (perPage : UInt64) (hfault : selection.fault = none)
    (hsort : selection.sort "paged" = .ok (sort, direction))
    (hbind : Bindable (values (whereTokens selection.filters)))
    (hrows : ∀ row ∈ listing, ∃ record, selection.entity row = .ok record)
    (hlength : listing.length < IntRange.int64.most.toNat)
    (hserves : ServesPages answer selection sort direction listing) (state : Cache × σ) :
    ∃ pages, PageRun (fun number => (selection.fetchPage number perPage).on answer) 1 state pages ∧
      Partition selection (max perPage 1).toNat listing.length listing pages ∧
      ∀ page ∈ pages, ∀ number : UInt64, page.totalPages < number.toNat →
        ∀ state : Cache × σ, ∃ beyond later,
          (selection.fetchPage number perPage).on answer state = (.ok beyond, later) ∧
            beyond.items = [] := by
  have hpos : 0 < (max perPage 1).toNat := by
    rw [toNat_max_one]
    omega
  have hone : (1 : UInt64).toNat = 0 + 1 := rfl
  obtain ⟨pages, hrun, hpages⟩ := exists_pageRun hfault hsort hbind hrows hlength hserves hone rfl
    hpos state
  rw [Nat.zero_mul, List.drop_zero] at hpages
  refine ⟨pages, hrun, hpages, fun page hpage number hnumber state => ?_⟩
  have hplace : (max number 1).toNat = (number.toNat - 1) + 1 := by
    rw [toNat_max_one]
    omega
  obtain ⟨beyond, later, hfetch, -, -, -, hitems⟩ := exists_fetchPage hfault hsort hbind hrows
    hlength hserves hplace rfl state
  have hsize := hpages.size page hpage
  have hbehind := page.totalItems_le_of_totalPages_lt (by rw [hsize]; exact hpos) hnumber
  rw [hsize, hpages.total page hpage] at hbehind
  rw [List.drop_of_length_le hbehind, List.take_nil] at hitems
  exact ⟨beyond, later, hfetch, (Except.ok.inj hitems).symm⟩

end Run

end Selection

namespace Sample

/-- What the database answers to a statement: to one with two parameters the notes in a window, else
the number of notes. -/
def counted : List Datum → List Row
  | [first, last] => ((Paging.rowsTo.clauseAt 1).rows? [first, last] listed).getD []
  | _ => [⟨"0", [("count", .int32 (some 3))]⟩]

/-- A connection to three notes in the order of their keys. -/
def counting : (c : Call) → Unit → c.Answer × Unit
  | .isOpen, s => (true, s)
  | .openUp, s => (.ok (), s)
  | .close, s => (.ok (), s)
  | .query statement, s => (.ok (counted statement.params), s)
  | .exec _, s => (.ok 0, s)

/-- The connection answers the count and the pages of the notes. -/
theorem servesPages_counting : ServesPages counting notes key .ascending listed where
  count query s hbuild := by
    obtain rfl := Except.ok.inj hbuild
    exact ⟨_, _, rfl, rfl, rfl⟩
  page window query s hbuild := by
    have hlength : listed.length < IntRange.int64.most.toNat := by decide
    have hwindow := windowRows?_page .firebird (notes.page key .ascending window) hbuild hlength
    have hslice := rows?_clauseAt [] window .rowsTo hlength
    have hbind : Bindable (values (whereTokens notes.filters)) :=
      fun _ hv => absurd hv List.not_mem_nil
    obtain rfl := Except.ok.inj ((build_of_bindable _ _
      (bindable_page (notes.page key .ascending window) hbind .rowsTo)).symm.trans hbuild)
    refine ⟨_, ?_, hwindow⟩
    show Except.ok (counted ((values ((notes.page key .ascending window).tokens .rowsTo)).map
      boundDatum)) = _
    rw [values_page]
    exact congrArg (fun rows => Except.ok (rows.getD [])) hslice

end Sample

/-- Three notes on two pages. -/
theorem Selection.pages_partition_notes :
    ∃ pages, PageRun (fun number => (Sample.notes.fetchPage number 2).on Sample.counting) 1
        (.empty, ()) pages ∧
      Partition Sample.notes 2 3 Sample.listed pages ∧
      ∀ page ∈ pages, ∀ number : UInt64, page.totalPages < number.toNat →
        ∀ state : Cache × Unit, ∃ beyond later,
          (Sample.notes.fetchPage number 2).on Sample.counting state = (.ok beyond, later) ∧
            beyond.items = [] := by
  refine Selection.pages_partition 2 rfl rfl (fun _ hv => absurd hv List.not_mem_nil) ?_
    (by decide) Sample.servesPages_counting (.empty, ())
  intro row hrow
  simp only [Sample.listed, List.mem_cons, List.not_mem_nil, or_false] at hrow
  rcases hrow with rfl | rfl | rfl <;> exact ⟨_, rfl⟩

end RowMapper
