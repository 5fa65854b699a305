import RowMapper.Sql.Change
import RowMapper.Sql.Select

/-!
# Texts without values

The text of a statement does not depend on the values of its placeholders.

* `Token.blank`, `Condition.blank` — tokens and conditions with their values taken out;
* `write_eq_of_blank` — tokens that are the same but for values have the same text;
* `blank_tokens`, `blank_whereTokens` — taking the values out of conditions takes them out
  of their tokens;
* `blank_matching` — key conditions without values are those of the columns alone;
* `blank_select`, `blank_page`, `Insert.blank_tokens` — statements with their values taken out.

### Why conditions are blanked as well

Where a condition stands in parentheses depends on its shape, and where the list of a
membership test is empty it becomes other text altogether.  Neither of them looks at
values, which the blanks on the level of conditions show once for all.
-/

namespace RowMapper.Sql

/-- The value in the place of every value. -/
def blankValue : Value := .string (some "")

/-- A token without its value. -/
def Token.blank : Token → Token
  | .param _ => .param blankValue
  | token => token

/-- The text of tokens does not depend on values. -/
theorem writeFrom_map_blank (style : Style) (tokens : List Token) (number : Nat) :
    style.writeFrom number (tokens.map Token.blank) = style.writeFrom number tokens := by
  induction tokens generalizing number with
  | nil => rfl
  | cons token rest ih => cases token <;> simp [Token.blank, Style.writeFrom, ih]

/-- Tokens that are the same but for values have the same text. -/
theorem write_eq_of_blank (style : Style) {a b : List Token}
    (h : a.map Token.blank = b.map Token.blank) : style.write a = style.write b := by
  rw [Style.write, Style.write, ← writeFrom_map_blank, h, writeFrom_map_blank]

theorem map_blank_separated (separator : String) (lists : List (List Token)) :
    (separated separator lists).map Token.blank =
      separated separator (lists.map fun tokens => tokens.map Token.blank) := by
  induction lists with
  | nil => rfl
  | cons tokens rest ih =>
      cases rest with
      | nil => rfl
      | cons next rest =>
          rw [separated, List.map_append, List.map_cons, ih]
          rfl

/-! ### Conditions -/

namespace Condition

/-- A condition without its values. -/
def blank : Condition → Condition
  | compare column comparison _ => .compare column comparison blankValue
  | oneOf column values => .oneOf column (values.map fun _ => blankValue)
  | noneOf column values => .noneOf column (values.map fun _ => blankValue)
  | like column _ escape => .like column "" escape
  | join connective left right => .join connective left.blank right.blank
  | c => c

theorem enclosedIn_blank (connective : Connective) (leftOperand : Bool) (c : Condition) :
    c.blank.enclosedIn connective leftOperand = c.enclosedIn connective leftOperand := by
  cases c <;> rfl

theorem map_blank_enclose (needed : Bool) (tokens : List Token) :
    (enclose needed tokens).map Token.blank = enclose needed (tokens.map Token.blank) := by
  cases needed <;> simp [enclose, Token.blank]

theorem map_blank_listTokens (vs : List Value) :
    (listTokens (vs.map fun _ => blankValue)).map Token.blank =
      (listTokens vs).map Token.blank := by
  simp [listTokens, map_blank_separated, Token.blank, Function.comp_def]

/-- The tokens of a condition without values are its tokens without values. -/
theorem blank_tokens (c : Condition) :
    c.blank.tokens.map Token.blank = c.tokens.map Token.blank := by
  induction c with
  | compare column comparison value => rfl
  | isNull column => rfl
  | isNotNull column => rfl
  | oneOf column vs =>
      cases vs with
      | nil => rfl
      | cons v vs =>
          have hlist := map_blank_listTokens (v :: vs)
          exact congrArg (fun tokens => .name column :: .text " IN " :: tokens) hlist
  | noneOf column vs =>
      cases vs with
      | nil => rfl
      | cons v vs =>
          have hlist := map_blank_listTokens (v :: vs)
          exact congrArg (fun tokens => .name column :: .text " NOT IN " :: tokens) hlist
  | like column pattern escape => cases escape <;> rfl
  | raw sql => rfl
  | join connective left right ihl ihr =>
      simp only [blank, tokens, List.map_append, List.map_cons, map_blank_enclose,
        enclosedIn_blank, ihl, ihr]

end Condition

/-- A chain of conditions without values. -/
theorem blank_foldl_join (connective : Connective) (first : Condition) (rest : List Condition) :
    (rest.foldl (Condition.join connective) first).blank =
      (rest.map Condition.blank).foldl (Condition.join connective) first.blank := by
  induction rest generalizing first with
  | nil => rfl
  | cons c rest ih => exact ih (.join connective first c)

theorem blank_joinAll? (connective : Connective) (conditions : List Condition) :
    Condition.joinAll? connective (conditions.map Condition.blank) =
      (Condition.joinAll? connective conditions).map Condition.blank := by
  cases conditions with
  | nil => rfl
  | cons first rest => exact congrArg some (blank_foldl_join connective first rest).symm

/-- The clause of conditions without values is the clause without values. -/
theorem blank_whereTokens (conditions : List Condition) :
    (whereTokens (conditions.map Condition.blank)).map Token.blank =
      (whereTokens conditions).map Token.blank := by
  rw [whereTokens, whereTokens, blank_joinAll?]
  cases Condition.joinAll? .and conditions with
  | none => rfl
  | some c => exact congrArg (Token.text " WHERE " :: ·) (Condition.blank_tokens c)

/-! ### Key conditions -/

/-- Key conditions without values are those of the columns. -/
theorem blank_matching {columns : List Ident} {vs : List Value}
    (h : columns.length ≤ vs.length) :
    (matching (columns.zip vs)).map Condition.blank =
      columns.map fun column => .compare column .eq blankValue := by
  induction columns generalizing vs with
  | nil => rfl
  | cons column columns ih =>
      cases vs with
      | nil => cases h
      | cons v vs => exact congrArg (_ :: ·) (ih (Nat.le_of_succ_le_succ h))

/-! ### Statements -/

section Statements

variable {filters others : List Condition}
  (h : filters.map Condition.blank = others.map Condition.blank)
include h

/-- Conditions that are the same but for values have the same clause but for values. -/
theorem blank_whereTokens_congr :
    (whereTokens filters).map Token.blank = (whereTokens others).map Token.blank := by
  rw [← blank_whereTokens, h, blank_whereTokens]

theorem blank_select (projection : Projection) (table : Ident) (order : List (Ident × Direction)) :
    (Select.tokens ⟨projection, table, filters, order⟩).map Token.blank =
      (Select.tokens ⟨projection, table, others, order⟩).map Token.blank := by
  simp only [Select.tokens, List.map_append, List.map_cons, blank_whereTokens_congr h]

/-- Two pages of the same table in the same order, whatever their windows are. -/
theorem blank_page (table : String) (column : Ident) (direction : Direction)
    (window window' : Window) (paging : Paging) :
    (Page.tokens ⟨table, filters, column, direction, window⟩ paging).map Token.blank =
      (Page.tokens ⟨table, others, column, direction, window'⟩ paging).map Token.blank := by
  cases paging with
  | rowNumber =>
      have hcut := @blank_whereTokens_congr
        [.compare Page.rowColumn .gt (Window.rowCount window.offset),
          .compare Page.rowColumn .lte (Window.rowCount window.stop)]
        [.compare Page.rowColumn .gt (Window.rowCount window'.offset),
          .compare Page.rowColumn .lte (Window.rowCount window'.stop)]
        (by simp only [List.map_cons, Condition.blank])
      simp only [Page.tokens, Page.numberedTokens, List.map_append, List.map_cons,
        blank_whereTokens_congr h, hcut]
  | limitOffset | offsetFetch | rowsTo =>
      have hselect := blank_select h .star (.plain table) [(column, direction)]
      simp only [Page.tokens, Page.select, List.map_append, hselect, Window.clause, List.map_cons,
        Token.blank]

end Statements

/-- An insert without its values. -/
def Insert.blank (insert : Insert) : Insert :=
  { insert with rows := insert.rows.map fun row => row.map fun _ => blankValue }

/-- The tokens of an insert without values are its tokens without values. -/
theorem Insert.blank_tokens (insert : Insert) (returning : Returning) :
    (insert.blank.tokens returning).map Token.blank =
      (insert.tokens returning).map Token.blank := by
  have hwritten : insert.blank.written =
      insert.written.map fun row => row.map fun _ => blankValue := by
    simp only [written, blank, List.filter_map, Function.comp_def, List.isEmpty_map]
  simp only [tokens, hwritten, List.map_append, List.map_cons]
  cases hrows : insert.written with
  | nil => rfl
  | cons row rows =>
      simp only [List.map_cons, map_blank_separated, List.map_map, Function.comp_def,
        Condition.map_blank_listTokens]
      rfl

theorem Insert.blank_tokens_congr {insert other : Insert} (h : insert.blank = other.blank)
    (returning : Returning) :
    (insert.tokens returning).map Token.blank = (other.tokens returning).map Token.blank := by
  rw [← insert.blank_tokens, h, other.blank_tokens]

end RowMapper.Sql
