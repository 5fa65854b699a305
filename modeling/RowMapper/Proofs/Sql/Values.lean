import RowMapper.Sql.Change
import RowMapper.Sql.Select

/-!
# Values of a statement

The values of the placeholders of a statement, in the order of the text, and how the
numbers of placeholders go on from one part of a text to the next.
-/

namespace RowMapper.Sql

/-- Two token lists one after the other: the second goes on with the numbers. -/
theorem writeFrom_append (style : Style) (a b : List Token) (place : Nat) :
    style.writeFrom place (a ++ b) =
      style.writeFrom place a ++ style.writeFrom (place + (values a).length) b := by
  induction a generalizing place with
  | nil => rfl
  | cons token rest ih =>
      cases token <;>
        simp [Style.writeFrom, values, ih, Nat.add_assoc, Nat.add_comm 1]

@[simp] theorem values_enclose (needed : Bool) (tokens : List Token) :
    values (Condition.enclose needed tokens) = values tokens := by
  cases needed <;> simp [Condition.enclose, values]

theorem values_join (connective : Connective) (left right : Condition) :
    values (Condition.join connective left right).tokens =
      values left.tokens ++ values right.tokens := by
  simp [Condition.tokens, values]

/-- Separators have no values. -/
theorem values_separated (separator : String) (lists : List (List Token)) :
    values (separated separator lists) = lists.flatMap values := by
  induction lists with
  | nil => rfl
  | cons tokens rest ih =>
      cases rest with
      | nil => simp [separated]
      | cons next rest => simp [separated, values, ih]

theorem values_separated_params (separator : String) (vs : List Value) :
    values (separated separator (vs.map fun v => [Token.param v])) = vs := by
  rw [values_separated, List.flatMap_map]
  exact List.flatMap_singleton' vs

@[simp] theorem values_listTokens (vs : List Value) : values (Condition.listTokens vs) = vs := by
  simp [Condition.listTokens, values, values_separated_params]

@[simp] theorem values_like (column : Ident) (pattern : String) (escape : Option Char) :
    values (Condition.like column pattern escape).tokens = [.string (some pattern)] := by
  cases escape <;> rfl

theorem values_oneOf (column : Ident) {vs : List Value} (h : vs ≠ []) :
    values (Condition.oneOf column vs).tokens = vs := by
  obtain ⟨v, vs, rfl⟩ := List.exists_cons_of_ne_nil h
  simp [Condition.tokens, values]

theorem values_noneOf (column : Ident) {vs : List Value} (h : vs ≠ []) :
    values (Condition.noneOf column vs).tokens = vs := by
  obtain ⟨v, vs, rfl⟩ := List.exists_cons_of_ne_nil h
  simp [Condition.tokens, values]

theorem values_foldl_join (connective : Connective) (first : Condition) (rest : List Condition) :
    values (rest.foldl (Condition.join connective) first).tokens =
      values first.tokens ++ rest.flatMap fun c => values c.tokens := by
  induction rest generalizing first with
  | nil => simp
  | cons c rest ih => rw [List.foldl_cons, ih, values_join, List.flatMap_cons, List.append_assoc]

theorem values_names {α : Type} (separator : String) (as : List α) (f : α → List Token)
    (h : ∀ a, values (f a) = []) : values (separated separator (as.map f)) = [] := by
  rw [values_separated, List.flatMap_map]
  exact List.flatMap_eq_nil_iff.mpr fun a _ => h a

theorem values_orderTokens (order : List (Ident × Direction)) :
    values (orderTokens order) = [] := by
  cases order with
  | nil => rfl
  | cons first rest => exact values_names ", " (first :: rest) _ fun _ => rfl

/-! ### Clauses of keys -/

/-- The clause of one chain is the clause of its links. -/
theorem whereTokens_joinAll? (conditions : List Condition) :
    whereTokens (Condition.joinAll? .and conditions).toList = whereTokens conditions := by
  cases conditions <;> rfl

theorem values_whereTokens (conditions : List Condition) :
    values (whereTokens conditions) = conditions.flatMap fun c => values c.tokens := by
  cases conditions with
  | nil => rfl
  | cons first rest => exact values_foldl_join .and first rest

/-- The values of key conditions are as many as there are columns. -/
theorem values_matching (columns : List Ident) (vs : List Value) :
    (matching (columns.zip vs)).flatMap (fun c => values c.tokens) =
      vs.take columns.length := by
  induction columns generalizing vs with
  | nil => simp [matching]
  | cons column columns ih =>
      cases vs with
      | nil => rfl
      | cons v vs => exact congrArg (v :: ·) (ih vs)

/-- The values of assignments are as many as there are columns. -/
theorem values_assignments (columns : List Ident) (vs : List Value) :
    values (separated ", " ((columns.zip vs).map fun assignment =>
      [Token.name assignment.1, .text " = ", .param assignment.2])) =
        vs.take columns.length := by
  rw [values_separated, List.flatMap_map]
  induction columns generalizing vs with
  | nil => rfl
  | cons column columns ih =>
      cases vs with
      | nil => rfl
      | cons v vs => exact congrArg (v :: ·) (ih vs)

/-- A clause binds what its conditions bind, however they are joined. -/
theorem values_joined (connective : Connective) (conditions : List Condition) :
    values (whereTokens (Condition.joinAll? connective conditions).toList) =
      conditions.flatMap fun c => values c.tokens := by
  cases conditions with
  | nil => rfl
  | cons first rest => exact values_foldl_join connective first rest

/-! ### Rows of an insert -/

/-- An insert binds the values of its rows, one row after the other. -/
theorem values_insert (insert : Insert) :
    values (insert.tokens .nothing) = insert.rows.flatten := by
  have hcolumns := values_names ", " insert.columns (fun column => [Token.name column])
    fun _ => rfl
  have hrows (rows : List (List Value)) :
      values (separated ", " (rows.map Condition.listTokens)) = rows.flatten := by
    rw [values_separated, List.flatMap_map]
    simp [List.flatMap]
  have hwritten : insert.written.flatten = insert.rows.flatten :=
    List.flatten_filter_not_isEmpty
  rw [← hwritten]
  cases hrow : insert.written with
  | nil => simp [Insert.tokens, hrow, values, hcolumns, Returning.tokens]
  | cons row rest =>
      have hvalues := hrows (row :: rest)
      simp only [List.map_cons] at hvalues
      simp [Insert.tokens, hrow, values, hcolumns, Returning.tokens, hvalues]

/-- What an insert answers binds no values. -/
theorem values_insert_returning (insert : Insert) (returning : Returning) :
    values (insert.tokens returning) = insert.rows.flatten := by
  have hanswer : values returning.tokens = [] := by
    cases returning <;> rfl
  have htokens : insert.tokens returning = insert.tokens .nothing ++ returning.tokens := by
    simp [Insert.tokens, Returning.tokens]
  rw [htokens, values_append, values_insert, hanswer, List.append_nil]

end RowMapper.Sql
