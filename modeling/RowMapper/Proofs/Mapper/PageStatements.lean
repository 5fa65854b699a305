import RowMapper.Proofs.Mapper.Refusal
import RowMapper.Proofs.Sql.PageText
import RowMapper.Recording

/-!
# The statements of a selection

The rows of a selection are counted, fetched, and fetched in pages.  The three statements are
written in different ways, and all of them are about the same rows.

* `Action.sent`, `Action.sent_bind` — what an action sends on a connection;
* `Selection.counting`, `Selection.fetching` — the statements that count and fetch the rows;
* `Selection.sent_countRows`, `sent_entities`, `sent_fetchPage` — who sends which of them;
* `Selection.statements_agree` — all of it, with what becomes of filters that cannot be bound and
  orders that cannot be made.
-/

namespace RowMapper

open Sql

/-! ### What is sent -/

namespace Action

variable {α β σ : Type} {answer : (c : Call) → σ → c.Answer × σ} {state : Cache × σ}

/-- The calls that an action makes on a connection, in their order. -/
def sent (action : Action α) (answer : (c : Call) → σ → c.Answer × σ) (state : Cache × σ) :
    List Call :=
  ((action.dialogue state.1).transcript answer state.2).1

/-- What goes on sends its calls behind the others, if there is something to go on from. -/
theorem sent_bind (x : Action α) (f : α → Action β) :
    (x >>= f).sent answer state = x.sent answer state ++
      match x.on answer state with
      | (.ok a, later) => (f a).sent answer later
      | (.error _, _) => [] := by
  rw [sent, dialogue_bind, Dialogue.transcript_bind, Dialogue.transcript_snd, on]
  cases ((x.dialogue state.1).run answer state.2).1.1 <;> rfl

theorem sent_lift (x : Except Error α) : (liftM x : Action α).sent answer state = [] := by
  rw [sent, dialogue_lift]
  rfl

/-- What only looks at an outcome sends nothing. -/
theorem sent_bind_lift (x : Action α) (f : α → Except Error β) :
    (x >>= fun a => liftM (f a)).sent answer state = x.sent answer state := by
  rw [sent_bind]
  generalize x.on answer state = ending
  obtain ⟨result, later⟩ := ending
  cases result with
  | ok a =>
      show _ ++ (liftM (f a) : Action β).sent answer later = _
      rw [sent_lift, List.append_nil]
  | error e => exact List.append_nil _

/-- The rows of a statement that can be written are asked for with it. -/
theorem sent_rows {selection : Selection} {tokens : List Token} {query : Query}
    (hbuild : Query.build selection.dialect.style tokens = .ok query) :
    (selection.rows tokens).sent answer state =
      [.query (selection.mapper.statement query)] := by
  rw [Selection.rows, hbuild, lift_ok_bind, sent, dialogue_query]
  rfl

/-- The rows of a statement that cannot be written are not asked for. -/
theorem fails_rows {selection : Selection} {tokens : List Token} {vs : List Value}
    (hsub : ∀ v ∈ vs, v ∈ values tokens) (hbind : ¬ Bindable vs) :
    (selection.rows tokens).Fails := by
  obtain ⟨e, he⟩ : ∃ e, Query.build selection.dialect.style tokens = .error e :=
    exists_error_of_not_bindable hsub hbind
  exact (Fails.lift he).bind _

end Action

/-! ### What the ends of a selection send -/

namespace Selection

variable {σ : Type} {selection : Selection} {data : List Datum}

/-- The text of the rows on which the filters hold. -/
def sourceText (selection : Selection) : String :=
  Sql.sourceText selection.dialect.style selection.descriptor.table selection.filters

/-- The text of an order by a property. -/
def orderText (selection : Selection) (sort : Property) (direction : Direction) : String :=
  Sql.orderText selection.dialect.style (selection.dialect.column sort.column) direction

/-- The statement that counts the rows. -/
def counting (selection : Selection) (data : List Datum) : Query :=
  ⟨"SELECT COUNT(*)" ++ selection.sourceText, data⟩

/-- The statement that fetches the rows in an order. -/
def fetching (selection : Selection) (order : String) (data : List Datum) : Query :=
  ⟨"SELECT *" ++ selection.sourceText ++ order, data⟩

section Sent

variable (hfault : selection.fault = none)
  (hdata : Value.toData (values (whereTokens selection.filters)) = .ok data)
  (answer : (c : Call) → σ → c.Answer × σ) (state : Cache × σ)

include hdata in
/-- What counts the rows sends one statement. -/
theorem sent_countRows :
    selection.countRows.sent answer state =
      [.query (selection.mapper.statement (selection.counting data))] := by
  have hbuild : Query.build selection.dialect.style (selection.select .count []).tokens =
      .ok (selection.counting data) := by
    rw [select, build_select _ hdata rfl, orderTokens, write_nil, String.append_empty]
    rfl
  have hread : selection.countRows = selection.rows (selection.select .count []).tokens >>=
      fun rows => liftM ((rows.head?.bind Row.first?).elim (.ok 0) fun d =>
        (fun count : Int => UInt64.ofNat count.toNat) <$> d.identity) := by
    rw [countRows]
    refine bind_congr fun rows => ?_
    cases rows.head?.bind Row.first? with
    | none => rfl
    | some d => exact Action.lift_bind_pure _ _
  rw [hread, Action.sent_bind_lift, Action.sent_rows hbuild]

include hfault in
theorem count_eq_countRows : selection.count = selection.countRows := by
  rw [count, check_eq_ok hfault, Action.lift_ok_bind]

include hdata in
/-- What makes entities of the rows in an order sends one statement. -/
theorem sent_entities (order : List (Ident × Direction)) :
    (selection.rows (selection.select .star order).tokens >>= fun rows =>
      liftM (selection.entities rows)).sent answer state =
        [.query (selection.mapper.statement
          (selection.fetching (selection.dialect.style.write (orderTokens order)) data))] := by
  have hbuild : Query.build selection.dialect.style (selection.select .star order).tokens =
      .ok (selection.fetching (selection.dialect.style.write (orderTokens order)) data) := by
    rw [select, build_select _ hdata rfl]
    rfl
  rw [Action.sent_bind_lift, Action.sent_rows hbuild]

include hfault hdata in
theorem sent_fetch_of_none (horder : selection.order = none) :
    selection.fetch.sent answer state =
      [.query (selection.mapper.statement (selection.fetching "" data))] := by
  rw [fetch, check_eq_ok hfault, horder]
  exact sent_entities hdata answer state []

include hfault hdata in
theorem sent_fetch_of_some {name : String} {sort : Property} {direction : Direction}
    (horder : selection.order = some (name, direction))
    (hproperty : selection.descriptor.property name = .ok sort) :
    selection.fetch.sent answer state =
      [.query (selection.mapper.statement
        (selection.fetching (selection.orderText sort direction) data))] := by
  have hsent := sent_entities hdata answer state
    [(selection.dialect.column sort.column, direction)]
  rw [write_orderTokens] at hsent
  rw [fetch, check_eq_ok hfault, horder]
  dsimp only
  rw [hproperty]
  exact hsent

include hfault hdata in
/-- A page is asked for if the rows could be counted. -/
theorem sent_fetchPage {sort : Property} {direction : Direction}
    (hsort : selection.sort "paged" = .ok (sort, direction)) (number perPage : UInt64)
    {paging : Query}
    (hbuild : Query.build selection.dialect.style ((selection.page sort direction
      (.page (max number 1) (max perPage 1))).tokens selection.dialect.style.paging) = .ok paging) :
    (selection.fetchPage number perPage).sent answer state =
      .query (selection.mapper.statement (selection.counting data)) ::
        if (selection.count.on answer state).1.isOk then
          [.query (selection.mapper.statement paging)]
        else [] := by
  have hpage : selection.fetchPage number perPage = selection.countRows >>= fun total =>
      selection.rows ((selection.page sort direction
        (.page (max number 1) (max perPage 1))).tokens selection.dialect.style.paging) >>=
          fun rows => liftM ((fun items => (⟨items, max number 1, max perPage 1, total⟩ :
            PagedList Record)) <$> selection.entities rows) := by
    rw [fetchPage, check_eq_ok hfault, Action.lift_ok_bind, hsort, Action.lift_ok_bind]
    refine bind_congr fun total => ?_
    refine bind_congr fun rows => ?_
    exact Action.lift_bind_pure _ _
  rw [hpage, Action.sent_bind, sent_countRows hdata, count_eq_countRows hfault]
  generalize selection.countRows.on answer state = counted
  obtain ⟨result, later⟩ := counted
  cases result with
  | ok total =>
      exact congrArg (_ :: ·) ((Action.sent_bind_lift _ _).trans (Action.sent_rows hbuild))
  | error e => rfl

end Sent

/-! ### What cannot be sent -/

section Unsent

variable (hbind : ¬ Bindable (values (whereTokens selection.filters)))

include hbind

/-- Filters that cannot be bound keep every query on the rows from being sent. -/
theorem fails_select {projection : Projection} (hprojection : values projection.tokens = [])
    (order : List (Ident × Direction)) :
    (selection.rows (selection.select projection order).tokens).Fails := by
  refine Action.fails_rows (fun v hv => ?_) hbind
  rw [select, values_select hprojection]
  exact hv

theorem fails_countRows : selection.countRows.Fails :=
  (fails_select hbind rfl []).bind _

theorem fails_fetch : selection.fetch.Fails := by
  refine Action.Fails.lift_bind fun _ _ => ?_
  match selection.order with
  | none => exact (fails_select hbind rfl []).bind _
  | some (name, direction) => exact .lift_bind fun sort _ => (fails_select hbind rfl _).bind _

theorem fails_fetchPage (number perPage : UInt64) : (selection.fetchPage number perPage).Fails :=
  .lift_bind fun _ _ => .lift_bind fun _ _ => (fails_countRows hbind).bind _

end Unsent

/-- The order of pages is the one that is named, if one is. -/
theorem exists_of_sort {kind : String} {sort : Property} {direction : Direction}
    (h : selection.sort kind = .ok (sort, direction)) (horder : selection.order ≠ none) :
    ∃ name, selection.order = some (name, direction) ∧
      selection.descriptor.property name = .ok sort := by
  match hnamed : selection.order with
  | none => exact absurd hnamed horder
  | some (name, direction') =>
      rw [Selection.sort, hnamed] at h
      obtain ⟨property, hproperty, h⟩ := exists_of_bind_eq_ok h
      obtain ⟨rfl, rfl⟩ := Prod.mk.inj (Except.ok.inj h)
      exact ⟨name, rfl, hproperty⟩

/-- Entities are not fetched in the order of a property that there is not. -/
theorem fails_fetch_of_sort {kind : String} {e : Error} (h : selection.sort kind = .error e)
    (horder : selection.order ≠ none) : selection.fetch.Fails := by
  match hnamed : selection.order with
  | none => exact absurd hnamed horder
  | some (name, direction) =>
      rw [Selection.sort, hnamed] at h
      refine Action.Fails.lift_bind fun _ _ => ?_
      rw [hnamed]
      refine Action.Fails.lift_bind fun property hproperty => ?_
      dsimp only at h
      rw [hproperty] at h
      cases h

/-- **The rows that are counted are the rows that are fetched**, all of them or in pages.  The three
statements of a selection (`Selection.counting`, `Selection.fetching` and the page) have the same
text for them (`sourceText`) with the same data.  Where a dialect has a clause for windows
(`Style.windowText`), a page is the statement that fetches the rows in its order, with that clause
and two more numbers behind it.  Where it has none, the same text stands inside the rows that are
numbered (`Style.numberedHead`), and behind it nothing but the bounds.  A page is asked for if the
rows could be counted.  Of filters that cannot be bound nothing is sent at all (`Action.Fails`), and
no page without an order. -/
theorem statements_agree (selection : Selection) (hfault : selection.fault = none)
    (number perPage : UInt64) (answer : (c : Call) → σ → c.Answer × σ) (state : Cache × σ) :
    let style := selection.dialect.style
    let send (query : Query) : Call := .query (selection.mapper.statement query)
    (∀ data, Value.toData (values (whereTokens selection.filters)) = .ok data →
      selection.count.sent answer state = [send (selection.counting data)] ∧
      (selection.order = none →
        selection.fetch.sent answer state = [send (selection.fetching "" data)]) ∧
      ∀ sort direction, selection.sort "paged" = .ok (sort, direction) →
        let order := selection.orderText sort direction
        let fetching := selection.fetching order data
        let window := Window.page (max number 1) (max perPage 1)
        (selection.order ≠ none → selection.fetch.sent answer state = [send fetching]) ∧
        ∃ paging : Query,
          (selection.fetchPage number perPage).sent answer state =
            send (selection.counting data) ::
              (if (selection.count.on answer state).1.isOk then [send paging] else []) ∧
          paging.params = fetching.params ++ window.numbers style.paging ∧
          (selection.dialect ≠ .sqlServer →
            paging.sql = fetching.sql ++ style.windowText (data.length + 1)) ∧
          (selection.dialect = .sqlServer →
            paging.sql = style.numberedHead selection.descriptor.table order ++
              selection.sourceText ++ style.windowText (data.length + 1))) ∧
    (¬ Bindable (values (whereTokens selection.filters)) →
      selection.count.Fails ∧ selection.fetch.Fails ∧
        (selection.fetchPage number perPage).Fails) ∧
    ∀ e, selection.sort "paged" = .error e →
      (selection.fetchPage number perPage).Fails ∧
        (selection.order ≠ none → selection.fetch.Fails) := by
  intro style send
  refine ⟨fun data hdata => ⟨?_, sent_fetch_of_none hfault hdata answer state,
    fun sort direction hsort => ?_⟩, fun hbind => ⟨?_, fails_fetch hbind,
      fails_fetchPage hbind number perPage⟩, fun e he => ⟨?_, fun horder => ?_⟩⟩
  · rw [count_eq_countRows hfault]
    exact sent_countRows hdata answer state
  · intro order fetching window
    have hbuild := build_page style (selection.page sort direction window) hdata
    refine ⟨fun horder => ?_, _, sent_fetchPage hfault hdata answer state hsort number perPage
      hbuild, rfl, fun hdialect => ?_, fun hdialect => ?_⟩
    · obtain ⟨name, hnamed, hproperty⟩ := exists_of_sort hsort horder
      exact sent_fetch_of_some hfault hdata answer state hnamed hproperty
    · have hpaging : style.paging ≠ .rowNumber :=
        mt selection.dialect.paging_eq_rowNumber_iff.mp hdialect
      rw [write_body_of_clause style _ hpaging]
      rfl
    · have hpaging : style.paging = .rowNumber :=
        selection.dialect.paging_eq_rowNumber_iff.mpr hdialect
      rw [hpaging, write_body_rowNumber]
      rfl
  · rw [count_eq_countRows hfault]
    exact fails_countRows hbind
  · exact .lift_bind fun _ _ => .lift_bind fun sorted hsorted => by cases he.symm.trans hsorted
  · exact fails_fetch_of_sort he horder

end Selection

/-- The notes behind the seventh, the last text first, in the dialect that numbers rows. -/
def Sample.recent : Selection :=
  ⟨.standard, note, .build pluralTable note, .sqlServer,
    [.compare (.quoted "id") .gt (.bigInt (some 7))], some ("body", .descending), none⟩

/-- The second page of ten notes. -/
theorem Selection.statements_agree_numbered :
    (Sample.recent.fetchPage 2 10).sent Recording.answer (.empty, .start "SqlConnection" true) =
      [.query ⟨"SELECT COUNT(*) FROM Notes WHERE [id] > @P1", [.int64 (some 7)], none⟩,
        .query ⟨"SELECT * FROM (SELECT ROW_NUMBER() OVER (  ORDER BY [body] DESC ) AS [__row], " ++
            "Notes.* FROM Notes WHERE [id] > @P1) AS __paged " ++
            "WHERE [__row] > @P2 AND [__row] <= @P3 ORDER BY [__row] ASC",
          [.int64 (some 7), .int64 (some 10), .int64 (some 20)], none⟩] := by
  obtain ⟨hsend, -⟩ := Selection.statements_agree Sample.recent rfl 2 10 Recording.answer
    (.empty, .start "SqlConnection" true)
  obtain ⟨-, -, hpages⟩ := hsend [.int64 (some 7)] rfl
  obtain ⟨-, ⟨sql, params⟩, hsent, rfl, -, hsql⟩ := hpages _ _ rfl
  obtain rfl := hsql rfl
  rw [hsent]
  decide +kernel

end RowMapper
