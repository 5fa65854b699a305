import RowMapper.Sql.Condition
import RowMapper.Sql.Window

/-!
# SELECT

* `Select` — a projection of the rows of one table, filtered and ordered;
* `Page` — a window of the ordered rows of a table.  Where the dialect has a clause for windows it
  follows the SELECT; where it has none, the rows are numbered in a subquery and the window is taken
  on the number.
-/

namespace RowMapper.Sql

/-- The direction of an order. -/
inductive Direction where
  | ascending
  | descending
  deriving DecidableEq, Repr

/-- The direction with its blank. -/
def Direction.word : Direction → String
  | .ascending => " ASC"
  | .descending => " DESC"

/-- What a SELECT answers for each row, or for all of them. -/
inductive Projection where
  | star
  | columns (names : List Ident)
  /-- The number of rows. -/
  | count
  deriving DecidableEq, Repr

/-- The tokens of a projection. -/
def Projection.tokens : Projection → List Token
  | star => [.text "*"]
  | columns names => separated ", " (names.map fun name => [.name name])
  | count => [.text "COUNT(*)"]

/-- The clause that orders rows. -/
def orderTokens (order : List (Ident × Direction)) : List Token :=
  match order with
  | [] => []
  | order =>
    .text " ORDER BY " ::
      separated ", " (order.map fun (name, direction) => [.name name, .text direction.word])

/-- A query on one table. -/
structure Select where
  projection : Projection
  table : Ident
  /-- Conditions that all hold of the rows. -/
  filters : List Condition
  order : List (Ident × Direction)

/-- The tokens of a query. -/
def Select.tokens (select : Select) : List Token :=
  .text "SELECT " :: select.projection.tokens ++ .text " FROM " :: .name select.table ::
    whereTokens select.filters ++ orderTokens select.order

/-- A window of the ordered rows of a table. -/
structure Page where
  table : String
  /-- Conditions that all hold of the rows. -/
  filters : List Condition
  orderColumn : Ident
  direction : Direction
  window : Window

namespace Page

/-- The query of which the page is a window. -/
def select (page : Page) : Select :=
  ⟨.star, .plain page.table, page.filters, [(page.orderColumn, page.direction)]⟩

/-- The column that numbers rows. -/
def rowColumn : Ident := .quoted "__row"

/-- The page by numbered rows: those after the offset, up to the end of the window. -/
def numberedTokens (page : Page) : List Token :=
  .text "SELECT * FROM (SELECT ROW_NUMBER() OVER ( " ::
    orderTokens [(page.orderColumn, page.direction)] ++
    .text " ) AS " :: .name rowColumn :: .text ", " :: .name (.plain page.table) ::
    .text ".* FROM " :: .name (.plain page.table) :: whereTokens page.filters ++
    .text ") AS " :: .name (.plain "__paged") ::
    whereTokens
      [.compare rowColumn .gt (Window.rowCount page.window.offset),
        .compare rowColumn .lte (Window.rowCount page.window.stop)] ++
    orderTokens [(rowColumn, .ascending)]

/-- The tokens of a page in a dialect with the given shape of windows. -/
def tokens (page : Page) : Paging → List Token
  | .rowNumber => page.numberedTokens
  | paging => page.select.tokens ++ page.window.clause paging

end Page

end RowMapper.Sql
