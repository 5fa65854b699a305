import RowMapper.Paging.Cursor
import RowMapper.Mapper.Selection
import RowMapper.Proofs.Sql.Meaning

/-!
# Listings of a table

What a database answers for a page: the rows on which all filters hold, in the order of a
column, and of these a window.

* `Interpretation.Sorts` — the comparisons of a database put some values in a strict order;
* `Row.Before` — the order of rows by a column, in a direction;
* `IsListing` — rows in an order; `IsListing.unique` — if no two rows are the same to the
  order, there is one listing only;
* `filter_eq_back` — the rows after a row of a listing are those that come after it in the
  order;
* `Page.IsAnswer` — the answer to a page.
-/

namespace RowMapper

open Sql

/-- The comparisons put the values in a strict order: nothing is less than itself, and of
two values one is less than the other. -/
structure Sql.Interpretation.Sorts (interpretation : Interpretation) (ds : List Datum) :
    Prop where
  irrefl : ∀ a ∈ ds, interpretation.holds .lt a a ≠ .yes
  trans : ∀ a ∈ ds, ∀ b ∈ ds, ∀ c ∈ ds, interpretation.holds .lt a b = .yes →
    interpretation.holds .lt b c = .yes → interpretation.holds .lt a c = .yes
  total : ∀ a ∈ ds, ∀ b ∈ ds, a ≠ b →
    interpretation.holds .lt a b = .yes ∨ interpretation.holds .lt b a = .yes

/-- The datum of a column; NULL if there is no such column. -/
def Row.cell (row : Row) (column : String) : Datum := (row.get? column).getD (.str none)

/-- The comparison that holds between a row and one after it. -/
def Sql.Direction.comparison : Direction → Comparison
  | .ascending => .lt
  | .descending => .gt

/-- A row comes before another one in the order of a column. -/
def Row.Before (interpretation : Interpretation) (column : String) (direction : Direction)
    (a b : Row) : Prop :=
  interpretation.holds direction.comparison (a.cell column) (b.cell column) = .yes

instance (interpretation : Interpretation) (column : String) (direction : Direction)
    (a b : Row) : Decidable (Row.Before interpretation column direction a b) :=
  inferInstanceAs (Decidable (_ = _))

/-! ### Rows in an order -/

section Listing

variable {α : Type} {before : α → α → Prop} {rows : List α}

/-- Rows in an order: none stands behind one that it comes before. -/
structure IsListing (before : α → α → Prop) (rows listing : List α) : Prop where
  perm : listing.Perm rows
  ordered : listing.Pairwise fun a b => ¬ before b a

/-- A strict order in which no two rows have the same place. -/
structure StrictOn (before : α → α → Prop) (rows : List α) : Prop where
  irrefl : ∀ a ∈ rows, ¬ before a a
  trans : ∀ a ∈ rows, ∀ b ∈ rows, ∀ c ∈ rows, before a b → before b c → before a c
  total : rows.Pairwise fun a b => before a b ∨ before b a

namespace StrictOn

/-- Of some of the rows the order is strict as well. -/
theorem filter (h : StrictOn before rows) (p : α → Bool) : StrictOn before (rows.filter p) where
  irrefl a ha := h.irrefl a (List.mem_filter.mp ha).1
  trans a ha b hb c hc :=
    h.trans a (List.mem_filter.mp ha).1 b (List.mem_filter.mp hb).1 c (List.mem_filter.mp hc).1
  total := h.total.filter p

/-- Of two rows only one comes before the other. -/
theorem asymm (h : StrictOn before rows) {a b : α} (ha : a ∈ rows) (hb : b ∈ rows)
    (hab : before a b) : ¬ before b a :=
  fun hba => h.irrefl a ha (h.trans a ha b hb a ha hab hba)

end StrictOn

namespace IsListing

/-- In a listing every row comes before those behind it. -/
theorem pairwise {listing : List α} (h : IsListing before rows listing)
    (hstrict : StrictOn before rows) : listing.Pairwise before := by
  have htotal : listing.Pairwise fun a b => before a b ∨ before b a :=
    hstrict.total.perm h.perm.symm fun hab => hab.symm
  exact (htotal.and h.ordered).imp fun ⟨hor, hnot⟩ => hor.resolve_right hnot

/-- There is one listing only. -/
theorem unique {listing other : List α} (h : IsListing before rows listing)
    (hother : IsListing before rows other) (hstrict : StrictOn before rows) :
    listing = other := by
  refine List.Perm.eq_of_pairwise (fun a b ha hb hab hba => ?_) (h.pairwise hstrict)
    (hother.pairwise hstrict) (h.perm.trans hother.perm.symm)
  exact absurd hba (hstrict.asymm (h.perm.mem_iff.mp ha) (hother.perm.mem_iff.mp hb) hab)

/-- Of some of the rows the listing is what the filter leaves of it. -/
theorem filter {listing : List α} (h : IsListing before rows listing) (p : α → Bool) :
    IsListing before (rows.filter p) (listing.filter p) where
  perm := h.perm.filter p
  ordered := h.ordered.filter p

/-- **The rows behind a row are those that come after it.** -/
theorem filter_eq_back {front back : List α} {a : α}
    (h : IsListing before rows (front ++ a :: back)) (hstrict : StrictOn before rows)
    {p : α → Bool} (hp : ∀ b ∈ rows, p b = true ↔ before a b) :
    (front ++ a :: back).filter p = back := by
  have hmem : ∀ b ∈ front ++ a :: back, b ∈ rows := fun b hb => h.perm.mem_iff.mp hb
  have ha : a ∈ rows := hmem a (by simp)
  obtain ⟨-, htail, hcross⟩ := List.pairwise_append.mp (h.pairwise hstrict)
  have hfront : front.filter p = [] := by
    rw [List.filter_eq_nil_iff]
    intro b hb hpb
    have hrow : b ∈ rows := hmem b (by simp [hb])
    exact hstrict.asymm hrow ha (hcross b hb a (by simp)) ((hp b hrow).mp hpb)
  have hself : p a = false := by
    rw [Bool.eq_false_iff]
    exact fun hpa => hstrict.irrefl a ha ((hp a ha).mp hpa)
  have hback : back.filter p = back := by
    rw [List.filter_eq_self]
    intro b hb
    exact (hp b (hmem b (by simp [hb]))).mpr (List.rel_of_pairwise_cons htail hb)
  rw [List.filter_append, hfront, List.nil_append, List.filter_cons, hself, hback]
  rfl

end IsListing

end Listing

/-- Rows with different values in a column are strictly ordered by it, in both directions. -/
theorem strictOn_before {interpretation : Interpretation} {column : String} {table : List Row}
    (hsorts : interpretation.Sorts (table.map fun row => row.cell column))
    (hdistinct : (table.map fun row => row.cell column).Nodup) (direction : Direction) :
    StrictOn (Row.Before interpretation column direction) table := by
  have hmem : ∀ row ∈ table, row.cell column ∈ table.map fun row => row.cell column :=
    fun row hrow => List.mem_map_of_mem hrow
  have hflip (a b : Datum) : interpretation.holds .gt a b = interpretation.holds .lt b a :=
    interpretation.holds_flip .lt b a
  have hne : table.Pairwise fun a b => a.cell column ≠ b.cell column :=
    List.pairwise_map.mp hdistinct
  cases direction with
  | ascending =>
      refine ⟨fun a ha => hsorts.irrefl _ (hmem a ha), fun a ha b hb c hc => ?_, ?_⟩
      · exact hsorts.trans _ (hmem a ha) _ (hmem b hb) _ (hmem c hc)
      · exact hne.imp_of_mem fun ha hb => hsorts.total _ (hmem _ ha) _ (hmem _ hb)
  | descending =>
      have hbefore (a b : Row) : Row.Before interpretation column .descending a b ↔
          interpretation.holds .lt (b.cell column) (a.cell column) = .yes := by
        rw [Row.Before, Direction.comparison, hflip]
      refine ⟨fun a ha => ?_, fun a ha b hb c hc => ?_, ?_⟩
      · rw [hbefore]
        exact hsorts.irrefl _ (hmem a ha)
      · rw [hbefore, hbefore, hbefore]
        exact fun hab hbc => hsorts.trans _ (hmem c hc) _ (hmem b hb) _ (hmem a ha) hbc hab
      · refine hne.imp_of_mem fun {a b} ha hb hab => ?_
        rw [hbefore, hbefore]
        exact (hsorts.total _ (hmem a ha) _ (hmem b hb) hab).symm

/-! ### Answers to pages -/

/-- All conditions hold of a row. -/
def Row.satisfies (interpretation : Interpretation) (filters : List Condition) (row : Row) :
    Bool :=
  filters.all fun c => c.truth interpretation row.cell = .yes

/-- The number of rows that a clause says for a number. -/
def Sql.Window.bound (count : UInt64) : Nat := (IntRange.int64.clamp count.toNat).toNat

/-- The rows of a window. -/
def Sql.Window.cut (window : Window) (rows : List Row) : List Row :=
  (rows.drop (bound window.offset)).take (bound window.size)

/-- The rows that a database answers for a page of a table.  They are fewer than the largest
number of 64 bits with a sign: that many have no place in any memory. -/
structure Sql.Page.IsAnswer (interpretation : Interpretation) (table : List Row) (page : Page)
    (rows : List Row) : Prop where
  window : ∃ listing, IsListing
    (Row.Before interpretation page.orderColumn.name page.direction)
    (table.filter (Row.satisfies interpretation page.filters)) listing ∧
      rows = page.window.cut listing
  addressable : rows.length < IntRange.int64.most.toNat

end RowMapper
