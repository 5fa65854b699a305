import RowMapper.Proofs.Sql.Meaning

/-!
# Clauses of conditions

What stands after `WHERE` in a statement, read as a database reads it.

* `Bindable` — values for which a statement can be built;
* `clauseTruth?` — what the clause of a list of conditions says about a row;
* `exists_clause` — the clause at the end of any statement, after other placeholders;
* `clauseTruth?_eq_yes_iff` — it is true of a row if each condition is, by its own clause;
* `HoldsClause` — where the clause stands in the statements that are sent.

### Conditions in a chain

Conditions are joined by `AND` from the left, so the first operand of the chain may stand
without parentheses, and every other one may not if it is itself a join.  Nothing of that
is visible in the results: they speak of the text only, and the reading of
`RowMapper.Proofs.Sql.Phrase` decides what it groups.
-/

namespace RowMapper.Sql

/-- All values can be bound. -/
def Bindable (vs : List Value) : Prop := ∀ v ∈ vs, ∃ d, v.toDatum = .ok d

theorem toData_of_bindable {vs : List Value} (h : Bindable vs) :
    Value.toData vs = .ok (vs.map boundDatum) := by
  induction vs with
  | nil => rfl
  | cons v vs ih =>
      obtain ⟨d, hd⟩ := h v (by simp)
      have hrest := ih fun w hw => h w (by simp [hw])
      rw [Value.toData] at hrest ⊢
      rw [List.mapM_cons, hd, hrest, List.map_cons, boundDatum_of_ok hd]
      rfl

theorem build_of_bindable (style : Style) (tokens : List Token) (h : Bindable (values tokens)) :
    Query.build style tokens = .ok ⟨style.write tokens, (values tokens).map boundDatum⟩ := by
  rw [Query.build, Query.withValues, toData_of_bindable h]
  rfl

theorem Bindable.append {vs ws : List Value} (hv : Bindable vs) (hw : Bindable ws) :
    Bindable (vs ++ ws) := by
  intro v hmem
  rcases List.mem_append.mp hmem with h | h
  · exact hv v h
  · exact hw v h

/-! ### The clause of conditions -/

/-- What the clause of a list of conditions says about a row, as a database reads it. -/
def clauseTruth? (dialect : Dialect) (filters : List Condition) (interpretation : Interpretation)
    (cells : String → Datum) : Option Truth := do
  let query ← (Query.build dialect.style (whereTokens filters)).toOption
  let text ← " WHERE ".toList.isPrefixOf? query.sql.toList
  let phrase ← Phrase.read? dialect.style text
  return phrase.truth interpretation query.params cells

theorem isPrefixOf?_append (a b : List Char) : a.isPrefixOf? (a ++ b) = some b := by
  induction a with
  | nil => cases b <;> rfl
  | cons c a ih =>
      show (if c == c then a.isPrefixOf? (a ++ b) else none) = some b
      rw [if_pos (beq_self_eq_true c), ih]

/-- The clause of conditions says what their chain says. -/
theorem clauseTruth?_of_readable {dialect : Dialect} {filters : List Condition} {c : Condition}
    (hjoin : Condition.joinAll? .and filters = some c) (hc : c.Readable dialect)
    (hbind : Bindable (values c.tokens)) (interpretation : Interpretation)
    (cells : String → Datum) :
    clauseTruth? dialect filters interpretation cells = some (c.truth interpretation cells) := by
  obtain ⟨phrase, hread, htruth⟩ := read?_tokens hc
  have htokens : whereTokens filters = .text " WHERE " :: c.tokens := by
    rw [whereTokens, hjoin]
  have hbuild := build_of_bindable dialect.style (whereTokens filters)
    (by rw [htokens]; exact hbind)
  have hsql : (dialect.style.write (whereTokens filters)).toList =
      " WHERE ".toList ++ dialect.style.writeFrom 1 c.tokens := by
    rw [htokens, Style.write]
    exact String.toList_ofList
  have htext : " WHERE ".toList.isPrefixOf? (dialect.style.write (whereTokens filters)).toList =
      some (dialect.style.writeFrom 1 c.tokens) := by
    rw [hsql]
    exact isPrefixOf?_append _ _
  have hparams : values (whereTokens filters) = values c.tokens := by
    rw [htokens]
    rfl
  have hsays := htruth interpretation [] cells
  rw [List.append_nil] at hsays
  simp only [clauseTruth?, hbuild, Except.toOption, Option.bind_eq_bind, Option.bind_some, htext,
    hread, hparams, hsays]
  rfl

/-- What stands behind `WHERE` at the end of a statement means what the conditions say, with the
data of the whole statement: its first placeholder comes after those of the text in front. -/
theorem exists_clause {dialect : Dialect} (before : List Token) {filters : List Condition}
    {c : Condition} (hjoin : Condition.joinAll? .and filters = some c) (hc : c.Readable dialect)
    (hbefore : Bindable (values before)) (hbind : Bindable (values c.tokens)) :
    ∃ (query : Query) (text : String) (phrase : Phrase),
      Query.build dialect.style (before ++ whereTokens filters) = .ok query ∧
      query.sql = dialect.style.write before ++ " WHERE " ++ text ∧
      Phrase.readFrom? dialect.style ((values before).length + 1) text.toList = some phrase ∧
      ∀ (interpretation : Interpretation) (cells : String → Datum),
        phrase.truth interpretation query.params cells = c.truth interpretation cells := by
  have htokens : whereTokens filters = .text " WHERE " :: c.tokens := by
    rw [whereTokens, hjoin]
  have hvalues : values (before ++ whereTokens filters) = values before ++ values c.tokens := by
    rw [values_append, htokens]
    rfl
  have hbuild := build_of_bindable dialect.style (before ++ whereTokens filters)
    (by rw [hvalues]; exact hbefore.append hbind)
  obtain ⟨phrase, hread, htruth⟩ := readFrom?_tokens hc ((values before).map boundDatum)
  rw [List.length_map] at hread
  refine ⟨_, String.ofList (dialect.style.writeFrom ((values before).length + 1) c.tokens), phrase,
    hbuild, ?_, ?_, fun interpretation cells => ?_⟩
  · rw [String.ext_iff, htokens]
    simp [Style.write, writeFrom_append, Style.writeFrom, Nat.add_comm 1]
  · rw [String.toList_ofList]
    exact hread
  · have h := htruth interpretation [] cells
    rwa [List.append_nil, ← List.map_append, ← hvalues] at h

/-! ### Conditions joined from the left -/

section Joined

variable {connective : Connective}

theorem readable_foldl_join {dialect : Dialect} {first : Condition} {rest : List Condition}
    (hfirst : first.Readable dialect) (hrest : ∀ c ∈ rest, c.Readable dialect) :
    (rest.foldl (Condition.join connective) first).Readable dialect := by
  induction rest generalizing first with
  | nil => exact hfirst
  | cons c rest ih =>
      exact ih ⟨hfirst, hrest c (by simp)⟩ fun d hd => hrest d (by simp [hd])

/-- A chain of `AND`s is true of a row if all of its links are. -/
theorem truth_foldl_and_eq_yes (interpretation : Interpretation) (cells : String → Datum)
    (first : Condition) (rest : List Condition) :
    (rest.foldl (Condition.join .and) first).truth interpretation cells = .yes ↔
      ∀ c ∈ first :: rest, c.truth interpretation cells = .yes := by
  induction rest generalizing first with
  | nil => simp
  | cons c rest ih =>
      rw [List.foldl_cons, ih]
      simp only [List.forall_mem_cons, Condition.truth, Truth.and_eq_yes_iff, and_assoc]

end Joined

/-- The clause of a list of readable conditions is true of a row exactly when each of them
is, by its own clause. -/
theorem clauseTruth?_eq_yes_iff {dialect : Dialect} {filters : List Condition}
    (hne : filters ≠ []) (hreadable : ∀ c ∈ filters, c.Readable dialect)
    (hbind : ∀ c ∈ filters, Bindable (values c.tokens)) (interpretation : Interpretation)
    (cells : String → Datum) :
    ∃ t, clauseTruth? dialect filters interpretation cells = some t ∧
      (t = .yes ↔ ∀ c ∈ filters, clauseTruth? dialect [c] interpretation cells = some .yes) := by
  obtain ⟨first, rest, rfl⟩ := List.exists_cons_of_ne_nil hne
  have hchain : Bindable (values (rest.foldl (Condition.join .and) first).tokens) := by
    rw [values_foldl_join]
    refine (hbind first (by simp)).append fun v hv => ?_
    obtain ⟨c, hc, hmem⟩ := List.mem_flatMap.mp hv
    exact hbind c (by simp [hc]) v hmem
  refine ⟨_, clauseTruth?_of_readable rfl (readable_foldl_join (hreadable first (by simp))
    fun c hc => hreadable c (by simp [hc])) hchain interpretation cells, ?_⟩
  rw [truth_foldl_and_eq_yes]
  have halone (c : Condition) (hc : c ∈ first :: rest) :
      clauseTruth? dialect [c] interpretation cells = some (c.truth interpretation cells) :=
    clauseTruth?_of_readable rfl (hreadable c hc) (hbind c hc) interpretation cells
  constructor
  · intro h c hc
    rw [halone c hc, h c hc]
  · intro h c hc
    exact Option.some.inj ((halone c hc).symm.trans (h c hc))

/-! ### Where the clause stands -/

/-- A statement has the clause of conditions in it, and the values of the clause come
first. -/
def HoldsClause (style : Style) (filters : List Condition) (tokens : List Token) : Prop :=
  ∃ before after : List Char,
    (style.write tokens).toList = before ++ (style.write (whereTokens filters)).toList ++ after ∧
      values (whereTokens filters) <+: values tokens

theorem holdsClause_of_append (style : Style) (filters : List Condition) {before : List Token}
    (after : List Token) (hbefore : values before = []) :
    HoldsClause style filters (before ++ whereTokens filters ++ after) := by
  refine ⟨style.writeFrom 1 before,
    style.writeFrom (1 + (values (before ++ whereTokens filters)).length) after, ?_, ?_⟩
  · simp [Style.write, writeFrom_append, hbefore]
  · simp [hbefore]

/-- A query has the clause of its filters in it, and so has a statement that goes on. -/
theorem holdsClause_select (style : Style) (select : Select) (more : List Token) :
    HoldsClause style select.filters (select.tokens ++ more) := by
  have hprojection : values select.projection.tokens = [] := by
    cases select.projection with
    | star => rfl
    | count => rfl
    | columns names => exact values_names ", " names _ fun _ => rfl
  have htokens : select.tokens ++ more =
      (.text "SELECT " :: select.projection.tokens ++ [.text " FROM ", .name select.table]) ++
        whereTokens select.filters ++ (orderTokens select.order ++ more) := by
    simp [Select.tokens]
  rw [htokens]
  refine holdsClause_of_append style _ _ ?_
  simp [values, hprojection]

/-- A page has the clause of its filters in it, also where it numbers the rows. -/
theorem holdsClause_page (style : Style) (page : Page) (paging : Paging) :
    HoldsClause style page.filters (page.tokens paging) := by
  cases paging with
  | rowNumber =>
      have htokens : page.numberedTokens =
          (.text "SELECT * FROM (SELECT ROW_NUMBER() OVER ( " ::
            orderTokens [(page.orderColumn, page.direction)] ++
            [.text " ) AS ", .name Page.rowColumn, .text ", ", .name (.plain page.table),
              .text ".* FROM ", .name (.plain page.table)]) ++
          whereTokens page.filters ++
          (.text ") AS " :: .name (.plain "__paged") ::
            whereTokens
              [.compare Page.rowColumn .gt (Window.rowCount page.window.offset),
                .compare Page.rowColumn .lte (Window.rowCount page.window.stop)] ++
            orderTokens [(Page.rowColumn, .ascending)]) := by
        simp [Page.numberedTokens]
      rw [Page.tokens, htokens]
      refine holdsClause_of_append style _ _ ?_
      simp [values, values_orderTokens]
  | _ => exact holdsClause_select style page.select _

end RowMapper.Sql
