import RowMapper.Proofs.Sql.PageText

/-!
# The text of an insert

An insert is written as the list of its columns and the lists of placeholders of its rows.

* `Style.tupleText`, `Style.tuples` — the list of placeholders of a row, and those of all rows;
* `Style.insertText` — the text of an insert, by the number of its rows;
* `writeFrom_separated` — a list whose parts bind equally many values;
* `write_insert` — an insert of rows that fit its columns is written as that text.

### Rows that nothing is written for

A row has a placeholder for each column, so without columns there are none.  Such rows are not
written at all, and neither is the word in front of them: whatever the number of rows is, the text
is the same.
-/

namespace RowMapper.Sql

/-- The text of the values of a row: as many placeholders as there are columns, from a number on. -/
def Style.tupleText (style : Style) (columns first : Nat) : String :=
  "(" ++ ", ".intercalate ((List.range' first columns).map style.markText) ++ ")"

/-- The texts of the values of some rows.  The numbers of the placeholders go on from row to row. -/
def Style.tuples (style : Style) (columns rows : Nat) : List String :=
  (List.range' 1 rows columns).map (style.tupleText columns)

/-- The text of an insert of some rows. -/
def Style.insertText (style : Style) (table : String) (columns : List String) (rows : Nat) :
    String :=
  "INSERT INTO " ++ table ++ " (" ++ ", ".intercalate columns ++ ")" ++
    if columns = [] then "" else " VALUES " ++ ", ".intercalate (style.tuples columns.length rows)

theorem separated_cons_of_ne_nil (separator : String) (tokens : List Token)
    {rest : List (List Token)} (h : rest ≠ []) :
    separated separator (tokens :: rest) =
      tokens ++ .text separator :: separated separator rest := by
  cases rest with
  | nil => exact absurd rfl h
  | cons next rest => rfl

section Write

variable (style : Style)

/-- Lists that bind nothing are written one after the other. -/
theorem write_separated {separator : String} {lists : List (List Token)}
    (h : ∀ tokens ∈ lists, values tokens = []) :
    style.write (separated separator lists) = separator.intercalate (lists.map style.write) := by
  induction lists with
  | nil => rfl
  | cons tokens rest ih =>
      have hrest := ih fun other hother => h other (List.mem_cons_of_mem _ hother)
      by_cases hnil : rest = []
      · subst hnil
        exact String.intercalate_singleton.symm
      · have htokens := h tokens List.mem_cons_self
        rw [separated_cons_of_ne_nil separator tokens hnil, write_append _ (.inl htokens),
          write_text, hrest, List.map_cons, String.intercalate_cons_of_ne_nil (by simpa using hnil),
          String.append_assoc]

/-- Lists that bind equally many values are written by the numbers of their first placeholders. -/
theorem writeFrom_separated {α : Type} {separator : String} {f : α → List Token} {step : Nat}
    {text : Nat → String} {as : List α} (hvalues : ∀ a ∈ as, (values (f a)).length = step)
    (htext : ∀ a ∈ as, ∀ place, String.ofList (style.writeFrom place (f a)) = text place)
    (place : Nat) :
    String.ofList (style.writeFrom place (separated separator (as.map f))) =
      separator.intercalate ((List.range' place as.length step).map text) := by
  induction as generalizing place with
  | nil => rfl
  | cons a rest ih =>
      have hrest := ih (fun b hb => hvalues b (List.mem_cons_of_mem _ hb))
        (fun b hb => htext b (List.mem_cons_of_mem _ hb)) (place + step)
      have ha := htext a List.mem_cons_self place
      rw [List.length_cons, List.range'_succ, List.map_cons, List.map_cons]
      by_cases hnil : rest = []
      · subst hnil
        exact ha.trans String.intercalate_singleton.symm
      · have hmore : (List.range' (place + step) rest.length step).map text ≠ [] := by
          simpa [List.range'_eq_nil_iff] using hnil
        rw [separated_cons_of_ne_nil separator (f a) (by simpa using hnil), writeFrom_append,
          hvalues a List.mem_cons_self, String.ofList_append, ha, Style.writeFrom,
          String.ofList_append, String.ofList_toList, hrest,
          String.intercalate_cons_of_ne_nil hmore, String.append_assoc]

/-- The values of a row are written as placeholders. -/
theorem writeFrom_listTokens (vs : List Value) (place : Nat) :
    String.ofList (style.writeFrom place (Condition.listTokens vs)) =
      style.tupleText vs.length place := by
  have hvalues : ∀ v ∈ vs, (values [Token.param v]).length = 1 := fun _ _ => rfl
  have htext : ∀ v ∈ vs, ∀ number : Nat,
      String.ofList (style.writeFrom number [Token.param v]) = style.markText number :=
    fun _ _ _ => by simp [Style.writeFrom, Style.markText]
  have hmarks : String.ofList (style.writeFrom place
      (separated ", " (vs.map fun v => [Token.param v]))) =
        ", ".intercalate ((List.range' place vs.length).map style.markText) :=
    writeFrom_separated style hvalues htext place
  rw [Condition.listTokens, List.cons_append, Style.writeFrom, writeFrom_append,
    String.ofList_append, String.ofList_append, hmarks, String.ofList_toList, Style.tupleText,
    String.append_assoc]
  rfl

/-- Rows with the same number of values are written one after the other. -/
theorem writeFrom_rows {rows : List (List Value)} {columns : Nat}
    (hrows : ∀ row ∈ rows, row.length = columns) :
    String.ofList (style.writeFrom 1 (separated ", " (rows.map Condition.listTokens))) =
      ", ".intercalate (style.tuples columns rows.length) := by
  refine writeFrom_separated style (fun row hrow => ?_) (fun row hrow place => ?_) 1
  · rw [values_listTokens, hrows row hrow]
  · rw [writeFrom_listTokens, hrows row hrow]

/-- Rows that fit some columns are all written, and rows that fit none are not. -/
theorem written_eq {insert : Insert}
    (hrows : ∀ row ∈ insert.rows, row.length = insert.columns.length) :
    insert.written = if insert.columns = [] then [] else insert.rows := by
  unfold Insert.written
  split
  · next hnil =>
      refine List.filter_eq_nil_iff.mpr fun row hrow => ?_
      have hempty := hrows row hrow
      rw [hnil] at hempty
      simpa using hempty
  · next hnil =>
      refine List.filter_eq_self.mpr fun row hrow => ?_
      have hlength := hrows row hrow
      cases row with
      | nil => exact absurd (List.length_eq_zero_iff.mp hlength.symm) hnil
      | cons v row => rfl

/-- **An insert of rows that fit its columns is written with a list of placeholders for each of
them**, unless it has no columns. -/
theorem write_insert {insert : Insert} (hne : insert.rows ≠ [])
    (hrows : ∀ row ∈ insert.rows, row.length = insert.columns.length) :
    style.write (insert.tokens .nothing) = style.insertText insert.table
      (insert.columns.map fun column => String.ofList (column.write style.marks))
      insert.rows.length := by
  have htokens : insert.tokens .nothing =
      .text "INSERT INTO " :: .name (.plain insert.table) :: .text " (" ::
        (separated ", " (insert.columns.map fun column => [.name column]) ++
          .text ")" :: (if insert.columns = [] then []
            else .text " VALUES " :: separated ", " (insert.rows.map Condition.listTokens))) := by
    have hwritten := written_eq hrows
    obtain ⟨first, rest, hfirst⟩ := List.exists_cons_of_ne_nil hne
    by_cases hnil : insert.columns = []
    · simp [Insert.tokens, Returning.tokens, hwritten, hnil]
    · simp [Insert.tokens, Returning.tokens, hwritten, hnil, hfirst]
  have hnames : style.write (separated ", " (insert.columns.map fun column => [.name column])) =
      ", ".intercalate (insert.columns.map fun column =>
        String.ofList (column.write style.marks)) := by
    rw [write_separated style (by simp [values]), List.map_map]
    refine congrArg (", ".intercalate) (List.map_congr_left fun column _ => ?_)
    exact (write_name style column []).trans String.append_empty
  have htable : String.ofList ((Ident.plain insert.table).write style.marks) = insert.table := by
    rw [Ident.write_plain, String.ofList_toList]
  have hhead := values_names ", " insert.columns (fun column => [Token.name column]) fun _ => rfl
  rw [htokens, write_text, write_name, htable, write_text, write_append _ (.inl hhead), hnames,
    write_text]
  show _ = "INSERT INTO " ++ insert.table ++ " (" ++ _ ++ ")" ++ if _ then _ else _
  by_cases hnil : insert.columns = []
  · simp only [hnil, if_true, List.map_nil, write_nil, String.append_assoc]
  · rw [if_neg hnil, if_neg (by simpa using hnil), List.length_map, ← writeFrom_rows style hrows]
    simp only [write_text, String.append_assoc]
    rfl

end Write

end RowMapper.Sql
