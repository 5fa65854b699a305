import RowMapper.Proofs.Outcome
import RowMapper.Proofs.Sql.Clause

/-!
# Windows of a result

The arithmetic of windows, and what a statement for a window binds.

* `toNat_saturatingAdd`, `toNat_saturatingMul` — the arithmetic as that of natural numbers;
* `Window.drop_offset_page` — what is in front of a page by its number, in that arithmetic;
* `Page.body`, `Page.cut` — a page is a query on its conditions, and what cuts out its window;
* `values_page` — a page binds what its conditions bind, and the bounds of its window;
* `bindable_page`, `exists_build_page` — it can be sent if its conditions can, and if the count of
  its rows could.
-/

namespace RowMapper

/-! ### Saturating arithmetic -/

theorem IntRange.clamp_natCast (range : IntRange) (hleast : range.least ≤ 0)
    (hmost : 0 ≤ range.most) (n : Nat) : range.clamp n = (min n range.most.toNat : Nat) := by
  unfold clamp
  split
  · omega
  · split <;> omega

theorem IntRange.toNat_clamp (range : IntRange) (hleast : range.least ≤ 0)
    (hmost : 0 ≤ range.most) (n : Nat) : (range.clamp n).toNat = min n range.most.toNat := by
  rw [range.clamp_natCast hleast hmost, Int.toNat_natCast]

namespace Sql

theorem toNat_saturatingAdd (a b : UInt64) :
    (saturatingAdd a b).toNat = min (a.toNat + b.toNat) IntRange.uint64.most.toNat := by
  have hclamp := IntRange.toNat_clamp .uint64 (by decide) (by decide)
    (a.toNat + b.toNat)
  have hmost : IntRange.uint64.most.toNat < 2 ^ 64 := by decide
  rw [Int.natCast_add] at hclamp
  rw [saturatingAdd, hclamp, UInt64.toNat_ofNat']
  exact Nat.mod_eq_of_lt (by omega)

theorem toNat_saturatingMul (a b : UInt64) :
    (saturatingMul a b).toNat = min (a.toNat * b.toNat) IntRange.uint64.most.toNat := by
  have hclamp := IntRange.toNat_clamp .uint64 (by decide) (by decide)
    (a.toNat * b.toNat)
  have hmost : IntRange.uint64.most.toNat < 2 ^ 64 := by decide
  rw [Int.natCast_mul] at hclamp
  rw [saturatingMul, hclamp, UInt64.toNat_ofNat']
  exact Nat.mod_eq_of_lt (by omega)

theorem toNat_max_one (n : UInt64) : (max n 1).toNat = max n.toNat 1 := by
  have hone : (1 : UInt64).toNat = 1 := rfl
  show (if n ≤ 1 then 1 else n).toNat = _
  split
  · next h =>
      rw [UInt64.le_iff_toNat_le] at h
      omega
  · next h =>
      rw [UInt64.le_iff_toNat_le] at h
      omega

/-- The rows in front of a page by its number. -/
theorem Window.toNat_offset_page (number size : UInt64) :
    (Window.page number size).offset.toNat =
      min ((number.toNat - 1) * size.toNat) IntRange.uint64.most.toNat := by
  have hone : (1 : UInt64).toNat = 1 := rfl
  show (saturatingMul (if number = 0 then 0 else number - 1) size).toNat = _
  rw [toNat_saturatingMul]
  split
  · next h =>
      rw [h]
      rfl
  · next h =>
      have hle : (1 : UInt64) ≤ number := by
        rw [UInt64.le_iff_toNat_le, hone]
        exact Nat.pos_of_ne_zero fun hzero => h (UInt64.toNat_inj.mp hzero)
      rw [UInt64.toNat_sub_of_le _ _ hle, hone]

/-- What is in front of a page by its number may be cut down to the largest number, but then it is
more than there is. -/
theorem Window.drop_offset_page {α : Type} {rows : List α} (number size : UInt64)
    (hlength : rows.length < IntRange.int64.most.toNat) :
    rows.drop (Window.page number size).offset.toNat =
      rows.drop ((number.toNat - 1) * size.toNat) := by
  have hmost : IntRange.int64.most.toNat ≤ IntRange.uint64.most.toNat := by decide
  rw [List.drop_eq_drop_iff, toNat_offset_page]
  omega

/-! ### A page and what cuts out its window -/

namespace Page

/-- A page up to what cuts out its window. -/
def body (page : Page) : Paging → List Token
  | .rowNumber =>
    .text "SELECT * FROM (SELECT ROW_NUMBER() OVER ( " ::
      orderTokens [(page.orderColumn, page.direction)] ++
      [.text " ) AS ", .name rowColumn, .text ", ", .name (.plain page.table), .text ".* FROM ",
        .name (.plain page.table)] ++
      whereTokens page.filters
  | _ => page.select.tokens

/-- The bounds on the numbers of rows. -/
def rowBounds (page : Page) : Condition :=
  .join .and (.compare rowColumn .gt (Window.rowCount page.window.offset))
    (.compare rowColumn .lte (Window.rowCount page.window.stop))

/-- What cuts out the window of a page. -/
def cut (page : Page) : Paging → List Token
  | .rowNumber =>
    .text ") AS " :: .name (.plain "__paged") :: .text " WHERE " :: page.rowBounds.tokens ++
      orderTokens [(rowColumn, .ascending)]
  | paging => page.window.clause paging

theorem tokens_eq (page : Page) (paging : Paging) :
    page.tokens paging = page.body paging ++ page.cut paging := by
  cases paging with
  | rowNumber =>
      have hwhere : whereTokens
          [.compare rowColumn .gt (Window.rowCount page.window.offset),
            .compare rowColumn .lte (Window.rowCount page.window.stop)] =
          .text " WHERE " :: page.rowBounds.tokens := rfl
      rw [tokens, numberedTokens, hwhere]
      simp [body, cut]
  | _ => rfl

end Page

/-- The numbers that cut out a window, in the order of the text. -/
def Window.bounds (window : Window) : Paging → UInt64 × UInt64
  | .limitOffset => (window.size, window.offset)
  | .offsetFetch => (window.offset, window.size)
  | .rowsTo => (saturatingAdd window.offset 1, window.stop)
  | .rowNumber => (window.offset, window.stop)

/-- The values of a query are those of its conditions. -/
theorem values_select {projection : Projection} (hprojection : values projection.tokens = [])
    (table : Ident) (filters : List Condition) (order : List (Ident × Direction)) :
    values (Select.tokens ⟨projection, table, filters, order⟩) =
      values (whereTokens filters) := by
  simp [Select.tokens, values, hprojection, values_orderTokens]

theorem values_body (page : Page) (paging : Paging) :
    values (page.body paging) = values (whereTokens page.filters) := by
  cases paging with
  | rowNumber => simp [Page.body, values, values_orderTokens]
  | _ => exact values_select rfl _ _ _

theorem values_cut (page : Page) (paging : Paging) :
    values (page.cut paging) = [Window.rowCount (page.window.bounds paging).1,
      Window.rowCount (page.window.bounds paging).2] := by
  cases paging with
  | rowNumber =>
      show values (page.rowBounds.tokens ++ orderTokens _) = _
      rw [values_append, values_orderTokens, Page.rowBounds, values_join]
      rfl
  | _ => rfl

/-- The values of a page are those of its conditions and the bounds of its window. -/
theorem values_page (page : Page) (paging : Paging) :
    values (page.tokens paging) = values (whereTokens page.filters) ++
      [Window.rowCount (page.window.bounds paging).1,
        Window.rowCount (page.window.bounds paging).2] := by
  rw [page.tokens_eq, values_append, values_body, values_cut]

/-- A page can be sent if its conditions can. -/
theorem bindable_page (page : Page) (h : Bindable (values (whereTokens page.filters)))
    (paging : Paging) : Bindable (values (page.tokens paging)) := by
  rw [values_page]
  refine h.append fun v hv => ?_
  rcases List.mem_cons.mp hv with rfl | hv
  · exact ⟨_, rfl⟩
  · obtain rfl := List.mem_singleton.mp hv
    exact ⟨_, rfl⟩

/-- What could be built can be bound. -/
theorem bindable_of_build {style : Style} {tokens : List Token} {query : Query}
    (h : Query.build style tokens = .ok query) : Bindable (values tokens) := by
  obtain ⟨data, hdata, -⟩ := exists_of_bind_eq_ok h
  intro v hv
  obtain ⟨d, -, hd⟩ := (mem_of_mapM_eq_ok hdata).2 v hv
  exact ⟨d, hd⟩

/-- A statement that cannot be written has a value that cannot be bound. -/
theorem exists_unbindable_of_build {style : Style} {tokens : List Token} {e : Error}
    (h : Query.build style tokens = .error e) : ∃ v, e = .argument (.unbindable v) := by
  cases hdata : Value.toData (values tokens) with
  | ok data =>
      rw [Query.build, Query.withValues, hdata] at h
      cases h
  | error e' =>
      rw [Query.build, Query.withValues, hdata] at h
      obtain rfl := Except.error.inj h
      obtain ⟨v, -, hv⟩ := exists_of_mapM_eq_error hdata
      cases v <;> cases hv
      exact ⟨_, rfl⟩

/-- The values of a count are those of its conditions. -/
theorem values_count (table : Ident) (filters : List Condition) :
    values (Select.tokens ⟨.count, table, filters, []⟩) = values (whereTokens filters) :=
  values_select rfl table filters []

/-- **A page can be asked for once its rows have been counted.**  Both statements have the same
conditions, and what else the page binds are numbers. -/
theorem exists_build_page {style : Style} {table : Ident} {query : Query} (page : Page)
    (paging : Paging)
    (h : Query.build style (Select.tokens ⟨.count, table, page.filters, []⟩) = .ok query) :
    ∃ later, Query.build style (page.tokens paging) = .ok later := by
  have hbind := bindable_of_build h
  rw [values_count] at hbind
  exact ⟨_, build_of_bindable style _ (bindable_page page hbind paging)⟩

end Sql

end RowMapper
