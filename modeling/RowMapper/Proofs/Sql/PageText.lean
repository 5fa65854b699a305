import RowMapper.Proofs.Sql.Window

/-!
# The text of a page

The rows of a page are those of a query, and its text is the text of the query with something around
it, or with something behind it.

* `Style.windowText`, `Style.numberedHead` — what is written behind the rows of a page, and in front
  of them if they are numbered;
* `Window.numbers` — what is bound for a window;
* `sourceText`, `orderText` — what a query and its pages have in common;
* `build_select`, `build_page` — the statements for a query and for a page, around the same text
  with the same data.

### Why the numbers of placeholders agree

Placeholders may carry their number, so the same conditions need not have the same text everywhere.
They have it here, since nothing that is written in front of them binds a value: neither the
projection, nor the order that numbered rows have there.  `write_append` is where this is used.
-/

namespace RowMapper

/-- One dialect has no clause for windows. -/
theorem Dialect.paging_eq_rowNumber_iff (dialect : Dialect) :
    dialect.style.paging = .rowNumber ↔ dialect = .sqlServer := by
  cases dialect <;> decide

namespace Sql

/-- The text of the placeholder with a number. -/
def Style.markText (style : Style) (number : Nat) : String := String.ofList (style.mark number)

/-- The text behind the rows of which a window is taken, with two placeholders from a number on. -/
def Style.windowText (style : Style) (place : Nat) : String :=
  let first := style.markText place
  let second := style.markText (place + 1)
  match style.paging with
  | .limitOffset => " LIMIT " ++ first ++ " OFFSET " ++ second
  | .offsetFetch => " OFFSET " ++ first ++ " ROWS FETCH NEXT " ++ second ++ " ROWS ONLY"
  | .rowsTo => " ROWS " ++ first ++ " TO " ++ second
  | .rowNumber =>
    let row := String.ofList (Page.rowColumn.write style.marks)
    ") AS __paged WHERE " ++ row ++ " > " ++ first ++ " AND " ++ row ++ " <= " ++ second ++
      " ORDER BY " ++ row ++ " ASC"

/-- The text in front of the rows that are numbered in an order. -/
def Style.numberedHead (style : Style) (table order : String) : String :=
  "SELECT * FROM (SELECT ROW_NUMBER() OVER ( " ++ order ++ " ) AS " ++
    String.ofList (Page.rowColumn.write style.marks) ++ ", " ++ table ++ ".*"

/-- The data that are bound for a window. -/
def Window.numbers (window : Window) (paging : Paging) : List Datum :=
  [boundDatum (rowCount (window.bounds paging).1), boundDatum (rowCount (window.bounds paging).2)]

/-- The text of the rows of a table on which conditions hold. -/
def sourceText (style : Style) (table : String) (conditions : List Condition) : String :=
  " FROM " ++ table ++ style.write (whereTokens conditions)

/-- The text of an order. -/
def orderText (style : Style) (column : Ident) (direction : Direction) : String :=
  " ORDER BY " ++ String.ofList (column.write style.marks) ++ direction.word

section Write

variable (style : Style)

theorem write_nil : style.write [] = "" := rfl

theorem write_text (text : String) (rest : List Token) :
    style.write (.text text :: rest) = text ++ style.write rest := by
  simp [Style.write, Style.writeFrom]

theorem write_name (ident : Ident) (rest : List Token) :
    style.write (.name ident :: rest) =
      String.ofList (ident.write style.marks) ++ style.write rest := by
  simp [Style.write, Style.writeFrom]

/-- A bare name is its own text. -/
theorem Ident.write_plain (marks : QuoteMarks) (name : String) :
    (Ident.plain name).write marks = name.toList := rfl

/-- Where nothing is bound the numbers of placeholders make no difference. -/
theorem writeFrom_of_values_eq_nil {tokens : List Token} (h : values tokens = []) (place : Nat) :
    style.writeFrom place tokens = style.writeFrom 1 tokens := by
  induction tokens with
  | nil => rfl
  | cons token rest ih =>
      cases token with
      | param value => cases h
      | text s => simp only [Style.writeFrom, ih h]
      | name ident => simp only [Style.writeFrom, ih h]
      | literal s => simp only [Style.writeFrom, ih h]

/-- Of two texts of which only one binds values, each is written as if it stood alone. -/
theorem write_append {before after : List Token} (h : values before = [] ∨ values after = []) :
    style.write (before ++ after) = style.write before ++ style.write after := by
  have hafter : style.writeFrom (1 + (values before).length) after = style.writeFrom 1 after := by
    rcases h with h | h
    · rw [h]
      rfl
    · exact writeFrom_of_values_eq_nil style h _
  rw [Style.write, writeFrom_append, hafter, String.ofList_append]
  rfl

theorem write_orderTokens (column : Ident) (direction : Direction) :
    style.write (orderTokens [(column, direction)]) = orderText style column direction := by
  simp [String.ext_iff, Style.write, orderTokens, separated, Style.writeFrom, orderText]

/-- A query is written around its conditions. -/
theorem write_select (table : String) (conditions : List Condition) {projection : Projection}
    (hprojection : values projection.tokens = []) (order : List (Ident × Direction)) :
    style.write (Select.tokens ⟨projection, .plain table, conditions, order⟩) =
      "SELECT " ++ style.write projection.tokens ++ sourceText style table conditions ++
        style.write (orderTokens order) := by
  have htokens : Select.tokens ⟨projection, .plain table, conditions, order⟩ =
      .text "SELECT " :: (projection.tokens ++ (.text " FROM " :: .name (.plain table) ::
        (whereTokens conditions ++ orderTokens order))) := by
    simp [Select.tokens]
  rw [htokens, write_text, write_append _ (.inl hprojection), write_text, write_name,
    Ident.write_plain, String.ofList_toList, write_append _ (.inr (values_orderTokens order))]
  simp only [sourceText, String.append_assoc]

/-- What cuts out a window is written as the text for it. -/
theorem writeFrom_cut (page : Page) (place : Nat) :
    String.ofList (style.writeFrom place (page.cut style.paging)) = style.windowText place := by
  cases hpaging : style.paging <;>
    simp [String.ext_iff, Style.windowText, hpaging, Page.cut, Window.clause, Page.rowBounds,
      Condition.tokens, Condition.enclose, Condition.enclosedIn, Comparison.sign, Connective.word,
      orderTokens, separated, Direction.word, Style.writeFrom, Style.markText,
      Ident.write_plain]

/-- A page is written in two parts, of which the one in front holds the conditions. -/
theorem write_page (page : Page) :
    style.write (page.tokens style.paging) = style.write (page.body style.paging) ++
      style.windowText (1 + (values (whereTokens page.filters)).length) := by
  rw [page.tokens_eq, Style.write, writeFrom_append, values_body, String.ofList_append,
    writeFrom_cut]
  rfl

/-- The page of a dialect with a clause for windows is the query with that clause. -/
theorem write_body_of_clause (page : Page) (hpaging : style.paging ≠ .rowNumber) :
    style.write (page.body style.paging) =
      "SELECT *" ++ sourceText style page.table page.filters ++
        orderText style page.orderColumn page.direction := by
  have hbody : page.body style.paging = page.select.tokens := by
    cases h : style.paging with
    | rowNumber => exact absurd h hpaging
    | _ => rfl
  rw [hbody, Page.select, write_select style _ _ rfl, write_orderTokens]
  rfl

/-- The page of a dialect without one numbers the same rows. -/
theorem write_body_rowNumber (page : Page) :
    style.write (page.body .rowNumber) =
      style.numberedHead page.table (orderText style page.orderColumn page.direction) ++
        sourceText style page.table page.filters := by
  have hbody : page.body .rowNumber = .text "SELECT * FROM (SELECT ROW_NUMBER() OVER ( " ::
    (orderTokens [(page.orderColumn, page.direction)] ++
      (.text " ) AS " :: .name Page.rowColumn :: .text ", " :: .name (.plain page.table) ::
        .text ".* FROM " :: .name (.plain page.table) :: whereTokens page.filters)) := by
    simp [Page.body]
  have hdot : ".* FROM " = ".*" ++ " FROM " := by decide
  rw [hbody, write_text, write_append style (.inl (values_orderTokens _)), write_orderTokens,
    write_text, write_name, write_text, write_name, write_text, write_name, hdot,
    Ident.write_plain, String.ofList_toList]
  unfold Style.numberedHead sourceText
  simp only [String.append_assoc]

end Write

section Build

variable (style : Style) {table : String} {conditions : List Condition} {data : List Datum}

/-- A query binds the data of its conditions. -/
theorem build_select (hdata : Value.toData (values (whereTokens conditions)) = .ok data)
    {projection : Projection} (hprojection : values projection.tokens = [])
    (order : List (Ident × Direction)) :
    Query.build style (Select.tokens ⟨projection, .plain table, conditions, order⟩) =
      .ok ⟨"SELECT " ++ style.write projection.tokens ++ sourceText style table conditions ++
        style.write (orderTokens order), data⟩ := by
  rw [Query.build, Query.withValues, values_select hprojection, hdata,
    write_select style table conditions hprojection]
  rfl

/-- A page binds the data of its conditions, and behind them those of its window. -/
theorem build_page (page : Page)
    (hdata : Value.toData (values (whereTokens page.filters)) = .ok data) :
    Query.build style (page.tokens style.paging) =
      .ok ⟨style.write (page.body style.paging) ++ style.windowText (data.length + 1),
        data ++ page.window.numbers style.paging⟩ := by
  have hvalues : Value.toData (values (page.tokens style.paging)) =
      .ok (data ++ page.window.numbers style.paging) := by
    rw [values_page, Value.toData, List.mapM_append, ← Value.toData, hdata]
    rfl
  rw [Query.build, Query.withValues, hvalues, write_page, ← length_of_mapM_eq_ok hdata,
    Nat.add_comm 1]
  rfl

end Build

end Sql

end RowMapper
