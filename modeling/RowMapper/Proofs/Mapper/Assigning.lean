import RowMapper.Proofs.Entity.Provision
import RowMapper.Proofs.Filter.Where
import RowMapper.Proofs.Mapper.Updating
import RowMapper.Proofs.Sql.Window

/-!
# What an update does to a record

A stored record has one value for each column.  An update assigns some of them, if its conditions
hold of the record.

* `assign`, `Update.finds` — what an update does to a record, and whether it is for it;
* `Executes` — a connection that executes updates on one stored record, or fails and leaves it;
* `Agrees`, `Found` — an entity and a record agree on a property, and belong together;
* `Descriptor.OwnColumn`, `Descriptor.KeysApart` — a property shares its column with no other that
  updates write, and no such property has the column of a key;
* `Dirty.Covers` — a change of a property is known;
* `finds_updateOf`, `agrees_assign` — the update of an entity finds its record, and what it has
  written agrees with the entity.
-/

namespace RowMapper

open Sql

/-! ### What an update does to a record -/

namespace Sql

/-- A record after values have been assigned to columns, one after the other. -/
def assign : List (Ident × Value) → (String → Datum) → String → Datum
  | [], cells => cells
  | (ident, value) :: rest, cells =>
    assign rest fun column => if column = ident.name then boundDatum value else cells column

/-- A column to which nothing is assigned keeps its value. -/
theorem assign_of_forall_ne {assignments : List (Ident × Value)} {column : String}
    (h : ∀ assignment ∈ assignments, assignment.1.name ≠ column) (cells : String → Datum) :
    assign assignments cells column = cells column := by
  induction assignments generalizing cells with
  | nil => rfl
  | cons assignment rest ih =>
      have hhead := h assignment List.mem_cons_self
      rw [assign, ih fun other hother => h other (List.mem_cons_of_mem _ hother)]
      exact if_neg (Ne.symm hhead)

/-- A column to which one value is assigned, however often, has that value. -/
theorem assign_of_forall_eq {assignments : List (Ident × Value)} {column : String} {d : Datum}
    (h : ∀ assignment ∈ assignments, assignment.1.name = column → boundDatum assignment.2 = d)
    (hmem : ∃ assignment ∈ assignments, assignment.1.name = column) (cells : String → Datum) :
    assign assignments cells column = d := by
  induction assignments generalizing cells with
  | nil =>
      obtain ⟨assignment, hmem, -⟩ := hmem
      cases hmem
  | cons assignment rest ih =>
      have hrest : ∀ other ∈ rest, other.1.name = column → boundDatum other.2 = d :=
        fun other hother => h other (List.mem_cons_of_mem _ hother)
      rw [assign]
      by_cases hlater : ∃ other ∈ rest, other.1.name = column
      · exact ih hrest hlater _
      · -- the head is the last one that assigns the column
        obtain ⟨other, hother, hname⟩ := hmem
        obtain rfl : other = assignment := by
          rcases List.mem_cons.mp hother with rfl | hother
          · rfl
          · exact absurd ⟨other, hother, hname⟩ hlater
        rw [assign_of_forall_ne fun later hmem hcolumn => hlater ⟨later, hmem, hcolumn⟩,
          if_pos hname.symm]
        exact h other List.mem_cons_self hname

/-- Whether all conditions of an update hold of a record. -/
def Update.finds (interpretation : Interpretation) (update : Update) (cells : String → Datum) :
    Bool :=
  update.filters.all fun c => c.truth interpretation cells = .yes

end Sql

/-- A connection executes the updates of the entities of a type: it fails and leaves the stored
record, or it assigns the columns of the record if the update finds it, and says whether it did. -/
def Executes {σ : Type} (mapper : Mapper) (connection : String) (type : EntityType)
    (interpretation : Interpretation) (answer : (c : Call) → σ → c.Answer × σ)
    (stored : σ → Option (String → Datum)) : Prop :=
  ∀ (columns : List Property) (vs : List Value) (query : Query) (s : σ),
    let descriptor := Descriptor.build mapper.tableRule type
    let dialect := mapper.dialectFor connection
    let update := Mapper.updateOf dialect descriptor.table columns descriptor.allKeys vs
    columns ≠ [] → columns.Sublist descriptor.updatable →
    vs.length = columns.length + descriptor.allKeys.length →
    Query.build dialect.style update.tokens = .ok query →
    (∀ message, (answer (.exec (mapper.statement query)) s).1 = .error message →
      stored (answer (.exec (mapper.statement query)) s).2 = stored s) ∧
    ∀ affected, (answer (.exec (mapper.statement query)) s).1 = .ok affected →
      stored (answer (.exec (mapper.statement query)) s).2 = (stored s).map (fun cells =>
        if update.finds interpretation cells then assign update.assignments cells else cells) ∧
      (0 < affected ↔ ∃ cells, stored s = some cells ∧ update.finds interpretation cells = true)

/-! ### An entity and its record -/

/-- An entity and a record agree on a property: the record has the datum as which the content of
the property is bound. -/
def Agrees (record : Record) (cells : String → Datum) (property : Property) : Prop :=
  ∃ content, record.get? property.name = some content ∧
    content.toValue.toDatum = .ok (cells property.column)

/-- A record has the contents of an entity's keys in the columns of the keys. -/
def Found (interpretation : Interpretation) (keys : List Property) (record : Record)
    (cells : String → Datum) : Prop :=
  ∀ key ∈ keys, ∀ content, record.get? key.name = some content →
    interpretation.holds .eq (cells key.column) (boundDatum content.toValue) = .yes

namespace Descriptor

/-- No other property that updates write has the column of a property. -/
def OwnColumn (descriptor : Descriptor) (property : Property) : Prop :=
  ∀ q ∈ descriptor.updatable, q.column = property.column → q.name = property.name

/-- No property that updates write has the column of a key. -/
def KeysApart (descriptor : Descriptor) : Prop :=
  ∀ p ∈ descriptor.updatable, ∀ key ∈ descriptor.allKeys, p.column ≠ key.column

variable (descriptor : Descriptor)

instance (property : Property) : Decidable (descriptor.OwnColumn property) :=
  inferInstanceAs (Decidable (∀ q ∈ descriptor.updatable, _ → _))

instance : Decidable descriptor.KeysApart :=
  inferInstanceAs (Decidable (∀ p ∈ descriptor.updatable, _))

end Descriptor

/-- Whether a change of a property is known. -/
def Dirty.Covers : Dirty → String → Prop
  | clean, _ => False
  | fields names, name => name ∈ names
  | all, _ => True

theorem mem_insertName {name other : String} {names : List String} :
    other ∈ insertName name names ↔ other = name ∨ other ∈ names := by
  induction names with
  | nil => simp [insertName]
  | cons first rest ih =>
      unfold insertName
      split
      · simp
      · split
        · rename_i heq
          subst heq
          simp
        · simp only [List.mem_cons, ih]
          constructor
          · rintro (rfl | rfl | h) <;> simp_all
          · rintro (rfl | rfl | h) <;> simp_all

/-- Marking a property makes its change known, and forgets none. -/
theorem Dirty.covers_mark {dirty : Dirty} {name other : String} :
    (dirty.mark name).Covers other ↔ other = name ∨ dirty.Covers other := by
  cases dirty with
  | clean => simp [mark, Covers]
  | fields names => exact mem_insertName
  | all => simp [mark, Covers]

/-- The properties that are written for a tracked entity are those whose changes are known. -/
theorem Dirty.mem_written_iff {dirty : Dirty} {only : Option (List String)}
    (h : dirty.only = some only) (descriptor : Descriptor) (p : Property) :
    p ∈ Mapper.writtenProperties descriptor only ↔
      p ∈ descriptor.updatable ∧ dirty.Covers p.name := by
  cases dirty with
  | clean => cases h
  | fields names =>
      obtain rfl := Option.some.inj h
      simp [Mapper.writtenProperties, Covers]
  | all =>
      obtain rfl := Option.some.inj h
      simp [Mapper.writtenProperties, Covers]

/-! ### The update of a tracked entity -/

section Written

variable {dialect : Dialect} {table : String} {columns keys : List Property}
  {assigned identifying : List Value}

/-- The assignments of an update are those of its columns' values. -/
theorem mem_assignments_updateOf (h : assigned.length = columns.length)
    (assignment : Ident × Value) :
    assignment ∈
        (Mapper.updateOf dialect table columns keys (assigned ++ identifying)).assignments ↔
      ∃ p v, (p, v) ∈ columns.zip assigned ∧ assignment = (dialect.column p.column, v) := by
  rw [Mapper.updateOf, zip_append_of_length (by simpa using h), List.zip_map_left, List.mem_map]
  constructor
  · rintro ⟨⟨p, v⟩, hmem, rfl⟩
    exact ⟨p, v, hmem, rfl⟩
  · rintro ⟨p, v, hmem, rfl⟩
    exact ⟨(p, v), hmem, rfl⟩

/-- An update finds the record of the entity whose keys it has. -/
theorem finds_updateOf (dialect : Dialect) (table : String) {interpretation : Interpretation}
    {type : EntityType} {record : Record} {cells : String → Datum}
    (h : assigned.length = columns.length)
    (hkeys : type.valuesOf record keys = .ok identifying)
    (hfound : Found interpretation keys record cells) :
    (Mapper.updateOf dialect table columns keys (assigned ++ identifying)).finds interpretation
      cells = true := by
  unfold Update.finds
  rw [List.all_eq_true]
  intro c hc
  unfold Mapper.updateOf at hc
  dsimp only at hc
  rw [List.drop_left' h, matching, List.zip_map_left, List.map_map] at hc
  obtain ⟨⟨key, v⟩, hmem, rfl⟩ := List.mem_map.mp hc
  obtain ⟨content, hcontent, rfl⟩ := exists_content_of_valuesOf hkeys _ hmem
  have hyes := hfound key (List.of_mem_zip hmem).1 content hcontent
  rw [decide_eq_true_iff]
  show interpretation.holds .eq (cells (dialect.column key.column).name) _ = .yes
  rw [name_column]
  exact hyes

/-- A column that no property has which an update writes is as it was. -/
theorem assign_updateOf_of_forall_ne (h : assigned.length = columns.length) {column : String}
    (hne : ∀ q ∈ columns, q.column ≠ column) (cells : String → Datum) :
    assign (Mapper.updateOf dialect table columns keys (assigned ++ identifying)).assignments cells
      column = cells column := by
  refine assign_of_forall_ne (fun assignment hmem hname => ?_) cells
  obtain ⟨q, v, hq, rfl⟩ := (mem_assignments_updateOf h assignment).mp hmem
  rw [name_column] at hname
  exact hne q (List.of_mem_zip hq).1 hname

/-- **What an update has written agrees with the entity**, if no other property has its column. -/
theorem agrees_assign {descriptor : Descriptor} {type : EntityType} {record : Record}
    {query : Query} {style : Style} {p : Property} (hown : descriptor.OwnColumn p)
    (hsub : columns.Sublist descriptor.updatable)
    (hassigned : type.valuesOf record columns = .ok assigned)
    (hkeys : identifying.length = keys.length)
    (hbuild : Query.build style
      (Mapper.updateOf dialect table columns keys (assigned ++ identifying)).tokens = .ok query)
    (hp : p ∈ columns) (cells : String → Datum) :
    Agrees record (assign
      (Mapper.updateOf dialect table columns keys (assigned ++ identifying)).assignments cells)
        p := by
  have hlength := length_of_takeValues hassigned
  obtain ⟨⟨q, v⟩, hv, rfl⟩ : ∃ entry ∈ columns.zip assigned, entry.1 = p := by
    rw [← List.mem_map, List.map_fst_zip (by omega)]
    exact hp
  obtain ⟨content, hcontent, rfl⟩ := exists_content_of_valuesOf hassigned _ hv
  obtain ⟨d, hd⟩ : ∃ d, content.toValue.toDatum = .ok d := by
    refine bindable_of_build hbuild _ ?_
    show _ ∈ values
      ((Template.update dialect table columns keys).tokens (assigned ++ identifying))
    rw [Template.values_tokens _ _ (by rw [List.length_append, hlength, hkeys]; rfl)]
    exact List.mem_append_left _ (List.of_mem_zip hv).2
  refine ⟨content, hcontent, ?_⟩
  rw [hd]
  congr 1
  refine (assign_of_forall_eq (fun assignment hmem hname => ?_)
    ⟨_, (mem_assignments_updateOf hlength _).mpr ⟨q, _, hv, rfl⟩, name_column _ _⟩ cells).symm
  -- whatever is assigned to the column is the content of the same property
  obtain ⟨other, w, hw, rfl⟩ := (mem_assignments_updateOf hlength assignment).mp hmem
  obtain ⟨content', hcontent', rfl⟩ := exists_content_of_valuesOf hassigned _ hw
  rw [name_column] at hname
  have hsame := hown other (hsub.subset (List.of_mem_zip hw).1) hname
  dsimp only at hcontent hcontent' ⊢
  rw [hsame, hcontent] at hcontent'
  obtain rfl := Option.some.inj hcontent'
  exact boundDatum_of_ok hd

end Written

end RowMapper
