import RowMapper.Sql.Window

/-!
# Pages of a result

* `PagedList` — a page by its number, with the size of the whole;
* `CursorPage` — a page with the cursor of the one after it.
-/

namespace RowMapper

/-- One page of a result. -/
structure PagedList (α : Type) where
  items : List α
  /-- The number of the page, counted from one. -/
  page : UInt64
  itemsPerPage : UInt64
  /-- The number of items on all pages. -/
  totalItems : UInt64

namespace PagedList

variable {α : Type}

/-- The number of pages, the last of which may be short. -/
def totalPages (list : PagedList α) : Nat :=
  if list.itemsPerPage = 0 then 0
  else (list.totalItems.toNat + list.itemsPerPage.toNat - 1) / list.itemsPerPage.toNat

/-- Whether another page follows. -/
def hasNext (list : PagedList α) : Bool := list.page.toNat < list.totalPages

end PagedList

/-- A page of a result with the way to the next one. -/
structure CursorPage (α : Type) where
  items : List α
  pageSize : UInt64
  hasNext : Bool
  nextCursor : Option String

end RowMapper
