import RowMapper.Mapper.Read
import RowMapper.Mapper.Selection
import RowMapper.Proofs.Filter.Meaning
import RowMapper.Proofs.Sql.Clause

/-!
# Filters in a statement

* `Filter.exists_reading` — the text that is sent for a filter means what the filter says;
* `Selection.filters_conjunction` — filters that are added one by one hold together, with
  the comparison of a cursor as with each other.

Both speak of texts.  What a filter means is said by `Filter.truth?`, which knows no SQL;
what a text means, by `Phrase.read?`, which knows no filters.
-/

namespace RowMapper

open Sql

/-! ### Types for examples -/

namespace Sample

/-- Notes with a generated key and a text. -/
def note : EntityType :=
  { name := "Note"
    table := none
    defaultSort := some "id"
    interface := false
    fields :=
      [⟨⟨"id", "id", "i64", true, false, false, false, true⟩, .required .int64⟩,
        ⟨⟨"body", "body", "String", false, false, false, false, true⟩, .required .text⟩]
    provided := ["id", "body"] }

/-- A note. -/
def noteOf (id : Int64) (body : String) : Record :=
  [("id", .present (.int64 id)), ("body", .present (.text body))]

/-- The row of a note. -/
def noteRow (id : Int64) (body : String) : Row :=
  ⟨"0", [("id", .int64 (some id)), ("body", .str (some body))]⟩

/-- Three notes in the order of their keys. -/
def listed : List Row := [noteRow 1 "a", noteRow 2 "b", noteRow 3 "c"]

/-- The property by which notes are ordered. -/
def key : Property := ⟨"id", "id", "i64", true, false, false, false, true⟩

/-- Tasks with a generated key and a rank that may be missing. -/
def task : EntityType :=
  { name := "Task"
    table := none
    defaultSort := some "rank"
    interface := false
    fields :=
      [⟨⟨"id", "id", "i64", true, false, false, false, true⟩, .required .int64⟩,
        ⟨⟨"rank", "rank", "Option<i64>", false, false, false, false, true⟩, .optional .int64⟩]
    provided := ["id", "rank"] }

/-- The property by which tasks are ordered. -/
def rank : Property := ⟨"rank", "rank", "Option<i64>", false, false, false, false, true⟩

/-- All notes, in the dialect in which names stay bare. -/
def notes : Selection :=
  ⟨.standard, note, .build pluralTable note, .firebird, [], none, none⟩

/-- No note at all, or one with a later key. -/
def later : Predicate :=
  .binary .or (.isIn (.column "id") []) (.binary (.compare .lt) (.constant (.bigInt (some 7)))
    (.column "id"))

/-- A note that starts with a sign of percent. -/
def percent : Predicate := .callWith .startsWith (.column "body") (.string (some "%"))

theorem plainColumns_notes : Filter.PlainColumns ⟨notes.descriptor, notes.dialect⟩ := by
  intro _ p hp
  rcases List.mem_cons.mp hp with rfl | hp
  · decide
  · obtain rfl := List.mem_singleton.mp hp
    decide

/-- The number of a datum. -/
def number? : Datum → Option Int
  | .int64 n => n.map Int64.toInt
  | _ => none

/-- Numbers are compared as such; of other data nothing is known. -/
def byNumber : Interpretation where
  holds comparison a b :=
    match number? a, number? b with
    | some m, some n => .ofBool (comparesNumbers comparison m n)
    | _, _ => .unknown
  holds_flip comparison a b := by
    cases number? a <;> cases number? b <;> cases comparison <;>
      simp [comparesNumbers, Comparison.flip, eq_comm]
  like _ _ _ := .unknown

theorem nullUnknown_byNumber : byNumber.NullUnknown := by
  intro comparison a b h
  have hnull (d : Datum) (hd : d.isNull = true) : number? d = none := by
    cases d with
    | int64 n =>
        obtain rfl : n = none := by simpa [Datum.isNull] using hd
        rfl
    | _ => rfl
  show (match number? a, number? b with
    | some m, some n => Truth.ofBool (comparesNumbers comparison m n)
    | _, _ => .unknown) = .unknown
  rcases h with h | h
  · rw [hnull a h]
  · rw [hnull b h]
    cases number? a <;> rfl

end Sample

namespace Filter

/-- A predicate compiles, and all its values can be bound. -/
def Accepts (filter : Filter) (e : Predicate) : Prop :=
  ∃ c, filter.compile e = .ok c ∧ Bindable (values c.tokens)

/-- **The text that is sent for a predicate means what the predicate says.**  What stands after
`WHERE` in the statement for a condition that can be bound is read back by `Phrase.read?`, which
knows nothing of the compiler.  For every row and every `Interpretation` of comparisons the truth of
the phrase, with the data of the statement, is the truth of the predicate (`Filter.truth?`). -/
theorem exists_reading (filter : Filter) (table : String) {e : Predicate} {c : Condition}
    (hcompile : filter.compile e = .ok c) (hbind : Bindable (values c.tokens))
    (hplain : filter.PlainColumns) :
    ∃ (query : Query) (text : String) (phrase : Phrase),
      Query.build filter.dialect.style (Mapper.rowsWhere table [c]).tokens = .ok query ∧
      query.sql = "SELECT * FROM " ++ table ++ " WHERE " ++ text ∧
      Phrase.read? filter.dialect.style text.toList = some phrase ∧
      ∀ (interpretation : Interpretation) (cells : String → Datum),
        filter.truth? interpretation cells e =
          some (phrase.truth interpretation query.params cells) := by
  obtain ⟨hreadable, htruth⟩ := compile_spec hcompile
  obtain ⟨phrase, hread, hsays⟩ := read?_tokens (hreadable hplain)
  have hvalues : values (Mapper.rowsWhere table [c]).tokens = values c.tokens := by
    simp [Mapper.rowsWhere, Select.tokens, Projection.tokens, orderTokens, values, whereTokens,
      Condition.joinAll?]
  have hbuild := build_of_bindable filter.dialect.style
    (Mapper.rowsWhere table [c]).tokens (by rw [hvalues]; exact hbind)
  refine ⟨_, String.ofList (filter.dialect.style.writeFrom 1 c.tokens), phrase, hbuild, ?_, ?_,
    fun interpretation cells => ?_⟩
  · rw [String.ext_iff]
    simp [Style.write, Mapper.rowsWhere, Select.tokens, Projection.tokens, orderTokens,
      whereTokens, Condition.joinAll?, Style.writeFrom, Ident.write, Ident.plain]
  · rw [String.toList_ofList]
    exact hread
  · have h := hsays interpretation [] cells
    rw [List.append_nil] at h
    rw [htruth, hvalues, h]

/-- The text for a list without members and a comparison with the constant on the left. -/
theorem exists_reading_later :
    ∃ (query : Query) (text : String) (phrase : Phrase),
      Query.build Dialect.firebird.style (Mapper.rowsWhere "Notes"
        [.join .or (.raw "1 = 0") (.compare (.plain "id") .gt (.bigInt (some 7)))]).tokens =
          .ok query ∧
      query.sql = "SELECT * FROM " ++ "Notes" ++ " WHERE " ++ text ∧
      Phrase.read? Dialect.firebird.style text.toList = some phrase ∧
      ∀ (interpretation : Interpretation) (cells : String → Datum),
        Filter.truth? ⟨Sample.notes.descriptor, .firebird⟩ interpretation cells Sample.later =
          some (phrase.truth interpretation query.params cells) := by
  refine exists_reading ⟨Sample.notes.descriptor, .firebird⟩ "Notes" ?_ ?_
    Sample.plainColumns_notes
  · rfl
  · intro v hv
    obtain rfl := List.mem_singleton.mp hv
    exact ⟨_, rfl⟩

end Filter

namespace Selection

/-- How the predicates of a selection are compiled. -/
def filter (selection : Selection) : Filter := ⟨selection.descriptor, selection.dialect⟩

/-- What the clause of a selection says about a row, as a database reads it. -/
def clauseTruth? (selection : Selection) (interpretation : Interpretation)
    (cells : String → Datum) : Option Truth :=
  Sql.clauseTruth? selection.dialect selection.filters interpretation cells

/-- The clause of a selection is true of a row exactly when the clauses of others all are;
each of them says something about every row. -/
def IsConjunction (selection : Selection) (others : List Selection) : Prop :=
  ∀ (interpretation : Interpretation) (cells : String → Datum),
    (∀ other ∈ others, ∃ t, other.clauseTruth? interpretation cells = some t) ∧
      ∃ t, selection.clauseTruth? interpretation cells = some t ∧
        (t = .yes ↔ ∀ other ∈ others, other.clauseTruth? interpretation cells = some .yes)

/-- The selection with filters added one by one. -/
def whereAll (selection : Selection) (es : List Predicate) : Selection :=
  es.foldl (fun selection e => selection.whereIf true e) selection

theorem whereIf_of_compile {selection : Selection} (hfault : selection.fault = none)
    {e : Predicate} {c : Condition} (h : selection.filter.compile e = .ok c) :
    selection.whereIf true e = { selection with filters := selection.filters ++ [c] } := by
  rw [whereIf, hfault]
  rw [filter] at h
  simp [h]

/-- Filters that compile are added in their order. -/
theorem whereAll_of_compile {selection : Selection} (hfault : selection.fault = none)
    {es : List Predicate} {cs : List Condition} (h : es.mapM selection.filter.compile = .ok cs) :
    selection.whereAll es = { selection with filters := selection.filters ++ cs } := by
  induction es generalizing selection cs with
  | nil =>
      obtain rfl := Except.ok.inj h
      simp [whereAll]
  | cons e es ih =>
      rw [List.mapM_cons] at h
      obtain ⟨c, hc, h⟩ := exists_of_bind_eq_ok h
      obtain ⟨rest, hrest, h⟩ := exists_of_bind_eq_ok h
      obtain rfl := Except.ok.inj h
      rw [whereAll, List.foldl_cons, whereIf_of_compile hfault hc]
      have hnext := @ih { selection with filters := selection.filters ++ [c] } hfault rest hrest
      rw [whereAll] at hnext
      rw [hnext]
      simp

/-- The cursor comparison is one more condition, with the value of the cursor. -/
theorem exists_of_after {selection later : Selection} {sort : Property} {direction : Direction}
    {token : String} (h : selection.after sort direction (some token) = .ok later) :
    ∃ comparison d, Cursor.decode token = .ok d ∧
      later = { selection with
        filters := selection.filters ++
          [.compare (selection.dialect.column sort.column) comparison d.toValue] } ∧
      ∀ other : Selection, other.after sort direction (some token) = .ok { other with
        filters := other.filters ++
          [.compare (other.dialect.column sort.column) comparison d.toValue] } := by
  obtain ⟨d, hd, h⟩ := exists_of_bind_eq_ok h
  obtain rfl := Except.ok.inj h
  cases direction with
  | ascending =>
      refine ⟨.gt, d, hd, rfl, fun other => ?_⟩
      rw [after, hd]
      rfl
  | descending =>
      refine ⟨.lt, d, hd, rfl, fun other => ?_⟩
      rw [after, hd]
      rfl

section Conjunction

variable {selection : Selection}

/-- The clause of readable conditions is the conjunction of their clauses. -/
theorem isConjunction_of_readable (selection : Selection) {filters : List Condition}
    (hne : filters ≠ [])
    (hgood : ∀ c ∈ filters, c.Readable selection.dialect ∧ Bindable (values c.tokens)) :
    IsConjunction { selection with filters }
      (filters.map fun c => { selection with filters := [c] }) := by
  intro interpretation cells
  refine ⟨fun other hother => ?_, ?_⟩
  · obtain ⟨c, hc, rfl⟩ := List.mem_map.mp hother
    exact ⟨_, clauseTruth?_of_readable rfl (hgood c hc).1 (hgood c hc).2 interpretation cells⟩
  · obtain ⟨t, ht, hyes⟩ := clauseTruth?_eq_yes_iff hne (fun c hc => (hgood c hc).1)
      (fun c hc => (hgood c hc).2) interpretation cells
    exact ⟨t, ht, hyes.trans (by simp [clauseTruth?])⟩

/-- The conditions of accepted predicates can be read and bound. -/
theorem readable_of_mapM (hplain : selection.filter.PlainColumns) {es : List Predicate}
    {cs : List Condition} (hes : ∀ e ∈ es, selection.filter.Accepts e)
    (h : es.mapM selection.filter.compile = .ok cs) :
    ∀ c ∈ cs, c.Readable selection.dialect ∧ Bindable (values c.tokens) := by
  intro c hc
  obtain ⟨e, he, hcompile⟩ := (mem_of_mapM_eq_ok h).1 c hc
  obtain ⟨c', hc', hbind⟩ := hes e he
  obtain rfl : c' = c := Except.ok.inj (hc'.symm.trans hcompile)
  exact ⟨(Filter.compile_spec hcompile).readable hplain, hbind⟩

/-- The selections with one filter each. -/
theorem map_whereIf_of_mapM (hfresh : selection.filters = []) (hfault : selection.fault = none)
    {es : List Predicate} {cs : List Condition}
    (h : es.mapM selection.filter.compile = .ok cs) :
    es.map (selection.whereIf true) =
      cs.map fun c => { selection with filters := [c] } := by
  induction es generalizing cs with
  | nil =>
      obtain rfl := Except.ok.inj h
      rfl
  | cons e es ih =>
      rw [List.mapM_cons] at h
      obtain ⟨c, hc, h⟩ := exists_of_bind_eq_ok h
      obtain ⟨rest, hrest, h⟩ := exists_of_bind_eq_ok h
      obtain rfl := Except.ok.inj h
      rw [List.map_cons, List.map_cons, ih hrest, whereIf_of_compile hfault hc, hfresh]
      rfl

/-- The conjunction of two accepted filters has the same condition as the filters one after
the other. -/
theorem whereIf_and (hfresh : selection.filters = []) (hfault : selection.fault = none)
    {p q : Predicate} (hp : selection.filter.Accepts p) (hq : selection.filter.Accepts q)
    (interpretation : Interpretation) (cells : String → Datum) :
    (selection.whereAll [p, q]).clauseTruth? interpretation cells =
      (selection.whereIf true (.binary .and p q)).clauseTruth? interpretation cells := by
  obtain ⟨c, hc, -⟩ := hp
  obtain ⟨d, hd, -⟩ := hq
  have hboth : selection.filter.compile (.binary .and p q) = .ok (.join .and c d) := by
    rw [Filter.compile] at hc hd
    rw [Filter.compile, Filter.compileNode, hc, hd]
    rfl
  have hmapM : [p, q].mapM selection.filter.compile = .ok [c, d] := by
    rw [List.mapM_cons, List.mapM_cons, hc, hd]
    rfl
  rw [whereAll_of_compile hfault hmapM, whereIf_of_compile hfault hboth, hfresh]
  rfl

/-- The comparison of a cursor is one more condition that holds together with the others. -/
theorem exists_isConjunction_of_after (hfresh : selection.filters = []) {cs : List Condition}
    (hgood : ∀ c ∈ cs, c.Readable selection.dialect ∧ Bindable (values c.tokens))
    {sort : Property} {direction : Direction} {token : String} {later : Selection}
    (hsort : selection.dialect = .firebird → Plain sort.column)
    (hlater : Selection.after { selection with filters := cs } sort direction (some token) =
      .ok later) :
    ∃ alone, selection.after sort direction (some token) = .ok alone ∧
      later.IsConjunction ((cs.map fun c => { selection with filters := [c] }) ++ [alone]) ∧
      ∀ window, HoldsClause later.dialect.style later.filters
        ((later.page sort direction window).tokens later.dialect.style.paging) := by
  obtain ⟨comparison, d, hd, rfl, hother⟩ := exists_of_after hlater
  refine ⟨_, hother selection, ?_, fun window => holdsClause_page _ _ _⟩
  -- what has been read from a cursor can always be bound
  have hcursor : ∀ c ∈ cs ++
        [.compare (selection.dialect.column sort.column) comparison d.toValue],
      c.Readable selection.dialect ∧ Bindable (values c.tokens) := by
    intro c hc
    rcases List.mem_append.mp hc with h | h
    · exact hgood c h
    · obtain rfl := List.mem_singleton.mp h
      refine ⟨⟨_, rfl, hsort⟩, fun v hv => ?_⟩
      obtain rfl := List.mem_singleton.mp hv
      exact d.exists_toDatum_toValue
  have h := isConjunction_of_readable selection (by simp) hcursor
  rw [hfresh, List.nil_append]
  simpa using h

/-- **Filters that are added one by one hold together.**  On a selection without filters, the clause
of accepted predicates that are added in turn (`Selection.whereAll`) is the conjunction of the
clauses of each of them alone (`IsConjunction`), and every statement of the selection carries it
(`HoldsClause`).  The comparison that a cursor adds (`Selection.after`) is one more of them, in the
page that is asked for as well; and two filters have the truth of their conjunction
(`clauseTruth?`). -/
theorem filters_conjunction (selection : Selection) (hfresh : selection.filters = [])
    (hfault : selection.fault = none)
    (hplain : selection.filter.PlainColumns) {es : List Predicate} (hne : es ≠ [])
    (hes : ∀ e ∈ es, selection.filter.Accepts e) :
    (selection.whereAll es).fault = none ∧
    (selection.whereAll es).IsConjunction (es.map (selection.whereIf true)) ∧
    (∀ (projection : Projection) (order : List (Ident × Direction)),
      HoldsClause selection.dialect.style (selection.whereAll es).filters
        ((selection.whereAll es).select projection order).tokens) ∧
    (∀ (sort : Property) (direction : Direction) (token : String) (later : Selection),
      (selection.dialect = .firebird → Plain sort.column) →
      (selection.whereAll es).after sort direction (some token) = .ok later →
      ∃ alone, selection.after sort direction (some token) = .ok alone ∧
        later.IsConjunction (es.map (selection.whereIf true) ++ [alone]) ∧
        ∀ window, HoldsClause later.dialect.style later.filters
          ((later.page sort direction window).tokens later.dialect.style.paging)) ∧
    (∀ (p q : Predicate), es = [p, q] →
      ∀ (interpretation : Interpretation) (cells : String → Datum),
        (selection.whereAll es).clauseTruth? interpretation cells =
          (selection.whereIf true (.binary .and p q)).clauseTruth? interpretation cells) := by
  obtain ⟨cs, hcs⟩ := exists_mapM_eq_ok fun e he => (hes e he).imp fun _ h => h.1
  have hgood := readable_of_mapM hplain hes hcs
  have hchain := whereAll_of_compile hfault hcs
  have hcsne : cs ≠ [] := by
    rintro rfl
    obtain ⟨e, rest, rfl⟩ := List.exists_cons_of_ne_nil hne
    obtain ⟨c, hc, -⟩ := (mem_of_mapM_eq_ok hcs).2 e (by simp)
    cases hc
  rw [hfresh, List.nil_append] at hchain
  have halone := map_whereIf_of_mapM hfresh hfault hcs
  refine ⟨?_, ?_, fun projection order => ?_, ?_, ?_⟩
  · rw [hchain]
    exact hfault
  · rw [hchain, halone]
    exact isConjunction_of_readable selection hcsne hgood
  · have h := holdsClause_select selection.dialect.style
      ((selection.whereAll es).select projection order) []
    rw [List.append_nil] at h
    exact h
  · intro sort direction token later hsort hlater
    rw [hchain] at hlater
    rw [halone]
    exact exists_isConjunction_of_after hfresh hgood hsort hlater
  · rintro p q rfl interpretation cells
    exact whereIf_and hfresh hfault (hes p (by simp)) (hes q (by simp)) interpretation cells

/-- Two filters on notes, the first of them an alternative. -/
theorem filters_conjunction_notes :
    (Sample.notes.whereAll [Sample.later, Sample.percent]).IsConjunction
        ([Sample.later, Sample.percent].map (Sample.notes.whereIf true)) ∧
      ∀ (interpretation : Interpretation) (cells : String → Datum),
        (Sample.notes.whereAll [Sample.later, Sample.percent]).clauseTruth? interpretation
            cells =
          (Sample.notes.whereIf true (.binary .and Sample.later Sample.percent)).clauseTruth?
            interpretation cells := by
  have haccepts : ∀ e ∈ [Sample.later, Sample.percent], Sample.notes.filter.Accepts e := by
    intro e he
    simp only [List.mem_cons, List.not_mem_nil, or_false] at he
    rcases he with rfl | rfl
    · refine ⟨_, rfl, fun v hv => ?_⟩
      obtain rfl := List.mem_singleton.mp hv
      exact ⟨_, rfl⟩
    · refine ⟨_, rfl, fun v hv => ?_⟩
      obtain rfl := List.mem_singleton.mp hv
      exact ⟨_, rfl⟩
  have h := filters_conjunction Sample.notes rfl rfl Sample.plainColumns_notes
    (by simp) haccepts
  exact ⟨h.2.1, h.2.2.2.2 _ _ rfl⟩

end Conjunction

end Selection

end RowMapper
