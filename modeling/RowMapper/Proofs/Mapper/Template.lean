import RowMapper.Mapper.Delete
import RowMapper.Mapper.Read
import RowMapper.Mapper.Update
import RowMapper.Proofs.Sql.Blank
import RowMapper.Proofs.Sql.Values

/-!
# Statements that depend on the type only

The statements that a mapper keeps, as functions of their values.

* `Template` — tokens for a number of values, with what makes them fit to be kept: the
  values come out in the order in which they went in, and the text does not depend on them;
* `Mapper.template` — the template of a key, or the reason why there is none;
* `Template.withValues_write` — the kept text with fresh values is the statement that would
  be built for them, whether they can be bound or not.
-/

namespace RowMapper

open Sql

/-- A statement as a function of its values. -/
structure Template where
  /-- The number of values. -/
  arity : Nat
  tokens : List Value → List Token
  /-- The values are those of the placeholders, in the order of the text. -/
  values_tokens : ∀ vs, vs.length = arity → values (tokens vs) = vs
  /-- All else does not depend on the values. -/
  blank_tokens : ∀ vs ws, vs.length = arity → ws.length = arity →
    (tokens vs).map Token.blank = (tokens ws).map Token.blank

namespace Template

/-- All values have the same text. -/
theorem write_tokens (template : Template) (style : Style) {vs ws : List Value}
    (hvs : vs.length = template.arity) (hws : ws.length = template.arity) :
    style.write (template.tokens vs) = style.write (template.tokens ws) :=
  write_eq_of_blank style (template.blank_tokens vs ws hvs hws)

/-- The text for some values, with fresh ones, is what is built for the fresh ones. -/
theorem withValues_write (template : Template) (style : Style) {vs ws : List Value}
    (hvs : vs.length = template.arity) (hws : ws.length = template.arity) :
    Query.withValues (style.write (template.tokens vs)) ws =
      Query.build style (template.tokens ws) := by
  rw [template.write_tokens style hvs hws, Query.build, template.values_tokens ws hws]

/-! ### The templates -/

/-- A statement without values. -/
def constant (tokens : List Token) (h : values tokens = []) : Template where
  arity := 0
  tokens _ := tokens
  values_tokens vs hvs := by
    rw [h, List.eq_nil_of_length_eq_zero hvs]
  blank_tokens _ _ _ _ := rfl

/-- The rows of a table with a key. -/
def byKey (table : String) (column : Ident) : Template where
  arity := 1
  tokens vs := (Mapper.rowsWhere table (matching (vs.map (column, ·)))).tokens
  values_tokens vs hvs := by
    obtain ⟨v, rfl⟩ := List.length_eq_one_iff.mp hvs
    rfl
  blank_tokens vs ws hvs hws := by
    obtain ⟨v, rfl⟩ := List.length_eq_one_iff.mp hvs
    obtain ⟨w, rfl⟩ := List.length_eq_one_iff.mp hws
    rfl

/-- Key conditions without values, whatever the values were. -/
theorem blank_whereTokens_matching (columns : List Ident) (vs ws : List Value)
    (hvs : columns.length ≤ vs.length) (hws : columns.length ≤ ws.length) :
    (whereTokens (matching (columns.zip vs))).map Token.blank =
      (whereTokens (matching (columns.zip ws))).map Token.blank := by
  rw [← blank_whereTokens, blank_matching hvs, ← blank_matching hws, blank_whereTokens]

/-- Assignments without values, whatever the values were. -/
theorem map_blank_assignments (columns : List Ident) (vs : List Value)
    (h : columns.length ≤ vs.length) :
    (columns.zip vs).map (fun assignment =>
        [Token.name assignment.1, .text " = ", .param assignment.2].map Token.blank) =
      columns.map fun column => [.name column, .text " = ", .param blankValue] := by
  induction columns generalizing vs with
  | nil => rfl
  | cons column columns ih =>
      cases vs with
      | nil => cases h
      | cons v vs => exact congrArg (_ :: ·) (ih vs (Nat.le_of_succ_le_succ h))

/-- The condition of a key binds the values of the key. -/
theorem values_keyMatch? (dialect : Dialect) (keys : List Property) {vs : List Value}
    (hvs : vs.length = keys.length) :
    values (whereTokens (Mapper.keyMatch? dialect keys vs).toList) = vs := by
  rw [Mapper.keyMatch?, whereTokens_joinAll?, values_whereTokens, values_matching,
    List.length_map, ← hvs, List.take_length]

/-- The removal of the row with the keys' values. -/
def removal (dialect : Dialect) (table : String) (keys : List Property) : Template where
  arity := keys.length
  tokens vs := Delete.tokens ⟨table, (Mapper.keyMatch? dialect keys vs).toList⟩
  values_tokens vs hvs := by
    exact values_keyMatch? dialect keys hvs
  blank_tokens vs ws hvs hws := by
    simp only [Delete.tokens, Mapper.keyMatch?, whereTokens_joinAll?, List.map_cons]
    rw [blank_whereTokens_matching _ vs ws (by simp [hvs]) (by simp [hws])]

/-- New values for the row with the keys' values. -/
def update (dialect : Dialect) (table : String) (columns keys : List Property) : Template where
  arity := columns.length + keys.length
  tokens vs := (Mapper.updateOf dialect table columns keys vs).tokens
  values_tokens vs hvs := by
    have hassigned := values_assignments (columns.map fun p => dialect.column p.column) vs
    have hkeys := values_matching (keys.map fun p => dialect.column p.column)
      (vs.drop columns.length)
    rw [List.length_map] at hassigned hkeys
    have hlast : (vs.drop columns.length).length = keys.length := by simp [hvs]
    rw [← hlast, List.take_length] at hkeys
    simp only [Update.tokens, Mapper.updateOf, values, values_append, values_whereTokens,
      hassigned, hkeys, List.take_append_drop]
  blank_tokens vs ws hvs hws := by
    have hassigned (us : List Value) (hus : us.length = columns.length + keys.length) :=
      map_blank_assignments (columns.map fun p => dialect.column p.column) us (by simp [hus])
    have hkeys := blank_whereTokens_matching (keys.map fun p => dialect.column p.column)
      (vs.drop columns.length) (ws.drop columns.length) (by simp [hvs]) (by simp [hws])
    simp only [Update.tokens, Mapper.updateOf, List.map_append, List.map_cons,
      map_blank_separated, List.map_map, hkeys]
    have hv := hassigned vs hvs
    have hw := hassigned ws hws
    simp only [Function.comp_def, List.map_cons, List.map_nil] at hv hw ⊢
    rw [hv, hw]

end Template

/-- The keys that an operation gets are all keys of the type. -/
theorem Descriptor.eq_allKeys_of_requireKeys {descriptor : Descriptor} {operation : String}
    {keys : List Property} (h : descriptor.requireKeys operation = .ok keys) :
    keys = descriptor.allKeys := by
  unfold requireKeys at h
  split at h
  · cases h
  · exact (Except.ok.inj h).symm

namespace Mapper

/-- The condition on the keys of an entity, if the type has keys. -/
def keyCondition (dialect : Dialect) (type : EntityType) (keys : List Property)
    (record : Record) : Except Error (Option Condition) := do
  return keyMatch? dialect keys (← type.valuesOf record keys)

/-- The template of a statement that is kept, if the type has the keys for it. -/
def template (mapper : Mapper) (key : StatementKey) : Except Error Template :=
  let descriptor := Descriptor.build mapper.tableRule key.type
  match key.kind with
  | .get => do
    let id ← descriptor.singleKey "get"
    return .byKey descriptor.table (key.dialect.column id.column)
  | .getAll => .ok (.constant (rowsWhere descriptor.table []).tokens rfl)
  | .update => do
    let keys ← descriptor.requireKeys "update"
    return .update key.dialect descriptor.table descriptor.updatable keys
  | .delete => do
    let keys ← descriptor.requireKeys "delete"
    return .removal key.dialect descriptor.table keys
  | .deleteAll => .ok (.constant (Delete.tokens ⟨descriptor.table, []⟩) rfl)

theorem template_update {mapper : Mapper} {type : EntityType} {keys : List Property}
    (h : (Descriptor.build mapper.tableRule type).requireKeys "update" = .ok keys)
    (dialect : Dialect) : mapper.template ⟨type, .update, dialect⟩ =
      .ok (.update dialect (Descriptor.build mapper.tableRule type).table
        (Descriptor.build mapper.tableRule type).updatable keys) := by
  rw [template, h]
  rfl

theorem template_delete {mapper : Mapper} {type : EntityType} {keys : List Property}
    (h : (Descriptor.build mapper.tableRule type).requireKeys "delete" = .ok keys)
    (dialect : Dialect) : mapper.template ⟨type, .delete, dialect⟩ =
      .ok (.removal dialect (Descriptor.build mapper.tableRule type).table keys) := by
  rw [template, h]
  rfl

theorem template_get {mapper : Mapper} {type : EntityType} {key : Property}
    (h : (Descriptor.build mapper.tableRule type).singleKey "get" = .ok key)
    (dialect : Dialect) : mapper.template ⟨type, .get, dialect⟩ =
      .ok (.byKey (Descriptor.build mapper.tableRule type).table
        (dialect.column key.column)) := by
  rw [template, h]
  rfl

end Mapper

end RowMapper
