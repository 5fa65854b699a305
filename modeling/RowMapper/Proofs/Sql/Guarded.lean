import RowMapper.Proofs.Sql.Placeholder

/-!
# Statements are guarded

Whatever the names of columns are, the tokens of a statement keep its placeholders apart from the
rest of its text.

* `guarded_condition`, `guarded_whereTokens`, `guarded_orderTokens` — the clauses;
* `guarded_select`, `guarded_insert`, `guarded_update`, `guarded_delete` — the statements;
* `guarded_numbered`, `guarded_page` — a page, cut out of numbered rows or in whatever other way.

The name of the table is written bare, so it has to be inert; the names of columns are quoted in
every dialect but Firebird, and may be any texts.
-/

namespace RowMapper.Sql

/-! ### Pieces -/

/-- A quoted name in front of a text. -/
theorem guarded_name {ident : Ident} {rest : List Token} (hident : ident.bare = false)
    (hapart : StandsApart rest) (hrest : Guarded rest) : Guarded (.name ident :: rest) := by
  refine ⟨?_, hrest⟩
  rw [hident]
  exact hapart

/-- A bare name that is inert. -/
theorem guarded_plain {name : String} {rest : List Token} (hname : Inert name)
    (hrest : Guarded rest) : Guarded (.name (.plain name) :: rest) := ⟨hname, hrest⟩

/-- A list of values between parentheses. -/
theorem guarded_listTokens (vs : List Value) :
    Guarded (Condition.listTokens vs) := by
  have hclosing : StandsApart [.text ")"] := ⟨')', rfl, rfl, rfl⟩
  refine ⟨by decide, Guarded.append ?_ ⟨by decide, trivial⟩ hclosing⟩
  refine guarded_separated (by decide) ⟨',', rfl, rfl, rfl⟩ fun tokens htokens => ?_
  obtain ⟨v, -, rfl⟩ := List.mem_map.mp htokens
  exact ⟨trivial, trivial⟩

theorem guarded_enclose {needed : Bool} {tokens : List Token} (h : Guarded tokens) :
    Guarded (Condition.enclose needed tokens) := by
  unfold Condition.enclose
  split
  · exact ⟨by decide, h.append ⟨by decide, trivial⟩ ⟨')', rfl, rfl, rfl⟩⟩
  · exact h

/-- The clause that orders rows by quoted names. -/
theorem guarded_orderTokens {order : List (Ident × Direction)}
    (h : ∀ entry ∈ order, entry.1.bare = false) :
    Guarded (orderTokens order) ∧ StandsApart (orderTokens order) := by
  cases order with
  | nil => exact ⟨trivial, trivial⟩
  | cons first rest =>
      refine ⟨⟨by decide, guarded_separated (by decide) ⟨',', rfl, rfl, rfl⟩ ?_⟩, ' ', rfl, rfl, rfl⟩
      intro tokens htokens
      obtain ⟨⟨ident, direction⟩, hmem, rfl⟩ := List.mem_map.mp htokens
      refine guarded_name (h _ hmem) ?_ ⟨?_, trivial⟩
      · cases direction <;> exact ⟨' ', rfl, rfl, rfl⟩
      · cases direction <;> decide

theorem guarded_insert (insert : Insert) (htable : Inert insert.table)
    (hcolumns : ∀ column ∈ insert.columns, column.bare = false) {returning : Returning}
    (hreturning : ∀ column, returning = .column column → column.bare = false) :
    Guarded (insert.tokens returning) := by
  have hnames : Guarded (separated ", " (insert.columns.map fun column => [.name column])) := by
    refine guarded_separated (by decide) ⟨',', rfl, rfl, rfl⟩ fun tokens htokens => ?_
    obtain ⟨column, hmem, rfl⟩ := List.mem_map.mp htokens
    exact guarded_name (hcolumns column hmem) trivial trivial
  have htarget : Guarded (.text "INSERT INTO " :: .name (.plain insert.table) :: .text " (" ::
      separated ", " (insert.columns.map fun column => [.name column])) :=
    ⟨by decide, guarded_plain htable ⟨by decide, hnames⟩⟩
  have hrows (rows : List (List Value)) :
      Guarded (.text " VALUES " :: separated ", " (rows.map Condition.listTokens)) := by
    refine ⟨by decide, guarded_separated (by decide) ⟨',', rfl, rfl, rfl⟩ fun tokens htokens => ?_⟩
    obtain ⟨row, -, rfl⟩ := List.mem_map.mp htokens
    exact guarded_listTokens row
  have hanswer : Guarded returning.tokens ∧ StandsApart returning.tokens := by
    cases returning with
    | nothing => exact ⟨trivial, trivial⟩
    | star => exact ⟨⟨by decide, trivial⟩, ' ', rfl, rfl, rfl⟩
    | column name =>
        exact ⟨⟨by decide, guarded_name (hreturning name rfl) trivial trivial⟩, ' ', rfl, rfl, rfl⟩
  unfold Insert.tokens
  cases insert.written with
  | nil =>
      have hclosed : Guarded [.text ")"] := ⟨by decide, trivial⟩
      exact (htarget.append hclosed ⟨')', rfl, rfl, rfl⟩).append hanswer.1 hanswer.2
  | cons row rows =>
      have hclosed : Guarded (.text ")" :: .text " VALUES " ::
          separated ", " ((row :: rows).map Condition.listTokens)) := ⟨by decide, hrows _⟩
      exact (htarget.append hclosed ⟨')', rfl, rfl, rfl⟩).append hanswer.1 hanswer.2

section Quoting

variable {dialect : Dialect} (hdialect : dialect ≠ .firebird)
include hdialect

theorem bare_column (s : String) : (dialect.column s).bare = false := by
  cases dialect <;> first | rfl | exact absurd rfl hdialect

theorem bare_of_readableName {ident : Ident} (h : ReadableName dialect ident) :
    ident.bare = false := by
  obtain ⟨s, rfl, -⟩ := h
  exact bare_column hdialect s

/-- The tokens of a condition are guarded, whatever the names of its columns are. -/
theorem guarded_condition {c : Condition} (h : c.Readable dialect) : Guarded c.tokens := by
  have hblank : ∀ {s : String} {rest : List Token}, s.toList.head? = some ' ' →
      StandsApart (.text s :: rest) := fun hs => ⟨' ', hs, rfl, rfl⟩
  induction c with
  | compare column comparison value =>
      refine guarded_name (bare_of_readableName hdialect h) ?_ ⟨?_, trivial, trivial⟩
      · cases comparison <;> exact hblank rfl
      · cases comparison <;> decide
  | isNull column =>
      exact guarded_name (bare_of_readableName hdialect h) (hblank rfl) ⟨by decide, trivial⟩
  | isNotNull column =>
      exact guarded_name (bare_of_readableName hdialect h) (hblank rfl) ⟨by decide, trivial⟩
  | oneOf column vs =>
      obtain ⟨hcolumn, hne⟩ := h
      obtain ⟨v, vs, rfl⟩ := List.exists_cons_of_ne_nil hne
      exact guarded_name (bare_of_readableName hdialect hcolumn) (hblank rfl)
        ⟨by decide, guarded_listTokens _⟩
  | noneOf column vs =>
      obtain ⟨hcolumn, hne⟩ := h
      obtain ⟨v, vs, rfl⟩ := List.exists_cons_of_ne_nil hne
      exact guarded_name (bare_of_readableName hdialect hcolumn) (hblank rfl)
        ⟨by decide, guarded_listTokens _⟩
  | like column pattern escape =>
      refine guarded_name (bare_of_readableName hdialect h.1) (hblank rfl) ⟨by decide, ?_⟩
      cases escape with
      | none => exact ⟨trivial, trivial⟩
      | some c => exact ⟨hblank rfl, by decide, trivial, trivial⟩
  | raw sql =>
      rcases h with rfl | rfl <;> exact ⟨by decide, trivial⟩
  | join connective left right ihl ihr =>
      refine (guarded_enclose (ihl h.1)).append ⟨?_, guarded_enclose (ihr h.2)⟩ ?_
      · cases connective <;> decide
      · cases connective <;> exact hblank rfl

/-- The clause of conditions stands apart from what it follows, and is guarded. -/
theorem guarded_whereTokens {filters : List Condition}
    (h : ∀ c ∈ filters, c.Readable dialect) :
    Guarded (whereTokens filters) ∧ StandsApart (whereTokens filters) := by
  cases filters with
  | nil => exact ⟨trivial, trivial⟩
  | cons first rest =>
      have hjoined : (rest.foldl (Condition.join .and) first).Readable dialect :=
        readable_foldl_join (h first List.mem_cons_self) fun c hc => h c (List.mem_cons_of_mem _ hc)
      exact ⟨⟨by decide, guarded_condition hdialect hjoined⟩, ' ', rfl, rfl, rfl⟩

/-! ### Statements with conditions -/

/-- Conditions on the values of columns can be read. -/
theorem readable_matching {keys : List (Ident × Value)}
    (h : ∀ key ∈ keys, ∃ s, key.1 = dialect.column s) :
    ∀ c ∈ matching keys, c.Readable dialect := by
  intro c hc
  obtain ⟨key, hmem, rfl⟩ := List.mem_map.mp hc
  obtain ⟨s, hs⟩ := h key hmem
  exact ⟨s, hs, fun h => absurd h hdialect⟩

omit hdialect in
/-- What is joined of readable conditions can be read. -/
theorem readable_joinAll? {connective : Connective} {filters : List Condition}
    (h : ∀ c ∈ filters, c.Readable dialect) :
    ∀ c ∈ Condition.joinAll? connective filters, c.Readable dialect := by
  intro c hc
  cases filters with
  | nil => cases hc
  | cons first rest =>
      obtain rfl := Option.some.inj hc
      exact readable_foldl_join (h first List.mem_cons_self) fun c hc =>
        h c (List.mem_cons_of_mem _ hc)

theorem guarded_select {projection : Projection} (hprojection : Guarded projection.tokens)
    {table : String} (htable : Inert table) {filters : List Condition}
    (hfilters : ∀ c ∈ filters, c.Readable dialect) {order : List (Ident × Direction)}
    (horder : ∀ entry ∈ order, entry.1.bare = false) :
    Guarded (Select.tokens ⟨projection, .plain table, filters, order⟩) := by
  obtain ⟨hwhere, hwhereApart⟩ := guarded_whereTokens hdialect hfilters
  obtain ⟨hsorted, hsortedApart⟩ := guarded_orderTokens horder
  have hprojected : Guarded (.text "SELECT " :: projection.tokens) := ⟨by decide, hprojection⟩
  have hsource : Guarded (.text " FROM " :: .name (.plain table) :: whereTokens filters) :=
    ⟨by decide, guarded_plain htable hwhere⟩
  exact (hprojected.append hsource ⟨' ', rfl, rfl, rfl⟩).append hsorted hsortedApart

/-! ### Pages -/

omit hdialect in
/-- An order by one column names that column only. -/
theorem bare_of_mem_singleton {column : Ident} (h : column.bare = false)
    (direction : Direction) : ∀ entry ∈ [(column, direction)], entry.1.bare = false := by
  intro entry hentry
  obtain rfl := List.mem_singleton.mp hentry
  exact h

/-- The bounds of a window of numbered rows can be read. -/
theorem readable_bounds (window : Window) :
    ∀ c ∈ [Condition.compare Page.rowColumn .gt (Window.rowCount window.offset),
      .compare Page.rowColumn .lte (Window.rowCount window.stop)], c.Readable dialect := by
  have hrow : ReadableName dialect Page.rowColumn := by
    refine ⟨"__row", ?_, fun h => absurd h hdialect⟩
    cases dialect <;> first | rfl | exact absurd rfl hdialect
  intro c hc
  rcases List.mem_cons.mp hc with rfl | hc
  · exact hrow
  · obtain rfl := List.mem_singleton.mp hc
    exact hrow

/-- A page that is cut out of numbered rows is guarded: in the query that numbers them, and in the
one around it. -/
theorem guarded_numbered (page : Page) (htable : Inert page.table)
    (hfilters : ∀ c ∈ page.filters, c.Readable dialect) (horder : page.orderColumn.bare = false) :
    Guarded (page.tokens .rowNumber) := by
  have hwhere := (guarded_whereTokens hdialect hfilters).1
  have hcut := (guarded_whereTokens hdialect (readable_bounds hdialect page.window)).1
  have hordered := (guarded_orderTokens (bare_of_mem_singleton horder page.direction)).1
  have hrowColumn : Page.rowColumn.bare = false := rfl
  obtain ⟨hlast, hlastApart⟩ :=
    guarded_orderTokens (bare_of_mem_singleton hrowColumn .ascending)
  -- the rows with their numbers, where they come from, and the window that is cut out
  have hnumbers : Guarded (.text "SELECT * FROM (SELECT ROW_NUMBER() OVER ( " ::
      orderTokens [(page.orderColumn, page.direction)]) := ⟨by decide, hordered⟩
  have hrows : Guarded (.text " ) AS " :: .name Page.rowColumn :: .text ", " ::
      .name (.plain page.table) :: .text ".* FROM " :: .name (.plain page.table) ::
        whereTokens page.filters) :=
    ⟨by decide, guarded_name rfl ⟨',', rfl, rfl, rfl⟩
      ⟨by decide, guarded_plain htable ⟨by decide, guarded_plain htable hwhere⟩⟩⟩
  have hwindow : Guarded (.text ") AS " :: .name (.plain "__paged") ::
      whereTokens [.compare Page.rowColumn .gt (Window.rowCount page.window.offset),
        .compare Page.rowColumn .lte (Window.rowCount page.window.stop)]) :=
    ⟨by decide, guarded_plain (by decide) hcut⟩
  exact ((hnumbers.append hrows ⟨' ', rfl, rfl, rfl⟩).append hwindow ⟨')', rfl, rfl, rfl⟩).append
    hlast hlastApart

/-- A page is guarded, whatever cuts it out. -/
theorem guarded_page (page : Page) (htable : Inert page.table)
    (hfilters : ∀ c ∈ page.filters, c.Readable dialect) (horder : page.orderColumn.bare = false)
    (paging : Paging) : Guarded (page.tokens paging) := by
  have hstar : Guarded Projection.star.tokens := ⟨by decide, trivial⟩
  have hselect : Guarded page.select.tokens :=
    guarded_select hdialect hstar htable hfilters (bare_of_mem_singleton horder page.direction)
  cases paging with
  | limitOffset =>
      refine hselect.append ?_ ⟨' ', rfl, rfl, rfl⟩
      exact ⟨by decide, ⟨' ', rfl, rfl, rfl⟩, by decide, trivial, trivial⟩
  | offsetFetch =>
      refine hselect.append ?_ ⟨' ', rfl, rfl, rfl⟩
      exact ⟨by decide, ⟨' ', rfl, rfl, rfl⟩, by decide, ⟨' ', rfl, rfl, rfl⟩, by decide, trivial⟩
  | rowsTo =>
      refine hselect.append ?_ ⟨' ', rfl, rfl, rfl⟩
      exact ⟨by decide, ⟨' ', rfl, rfl, rfl⟩, by decide, trivial, trivial⟩
  | rowNumber => exact guarded_numbered hdialect page htable hfilters horder

/-! ### Updates and deletes -/

theorem guarded_update (update : Update) (htable : Inert update.table)
    (hassigned : ∀ assignment ∈ update.assignments, assignment.1.bare = false)
    (hfilters : ∀ c ∈ update.filters, c.Readable dialect) : Guarded update.tokens := by
  obtain ⟨hwhere, hwhereApart⟩ := guarded_whereTokens hdialect hfilters
  have hassignments : Guarded (separated ", " (update.assignments.map fun assignment =>
      [.name assignment.1, .text " = ", .param assignment.2])) := by
    refine guarded_separated (by decide) ⟨',', rfl, rfl, rfl⟩ fun tokens htokens => ?_
    obtain ⟨assignment, hmem, rfl⟩ := List.mem_map.mp htokens
    exact guarded_name (hassigned _ hmem) ⟨' ', rfl, rfl, rfl⟩ ⟨by decide, trivial, trivial⟩
  have htarget : Guarded (.text "UPDATE " :: .name (.plain update.table) :: .text " SET " ::
      separated ", " (update.assignments.map fun assignment =>
        [.name assignment.1, .text " = ", .param assignment.2])) :=
    ⟨by decide, guarded_plain htable ⟨by decide, hassignments⟩⟩
  exact htarget.append hwhere hwhereApart

theorem guarded_delete (delete : Delete) (htable : Inert delete.table)
    (hfilters : ∀ c ∈ delete.filters, c.Readable dialect) : Guarded delete.tokens :=
  ⟨by decide, guarded_plain htable (guarded_whereTokens hdialect hfilters).1⟩

end Quoting

end RowMapper.Sql
