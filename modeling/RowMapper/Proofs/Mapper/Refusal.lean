import RowMapper.Proofs.Mapper.Bracket

/-!
# Refused requests

A request that is refused does not reach the database: no statement is sent for it, and nothing
is kept that was not there before.

* `Operation.always_unsent` — of every operation, whatever is answered;
* `Action.Fails` — an action that cannot succeed and sends nothing on its way;
* `exists_error_of_not_bindable` — what cannot be bound is found out when the text is written;
* `always_deleteMany_fails`, `always_insertMany_fails` — one value that cannot be bound, in
  whichever entity, keeps a statement for all of them from being sent;
* `refusals_unsent` — all of it, on a connection.

### Why an insert may call and not send

An insert opens a closed connection before it looks at its entities, so a refused one may have
opened and closed the connection.  What it has not done is send a statement.
-/

namespace RowMapper

open Sql

/-- There is no statement among the calls. -/
def Unsent (sent : List Call) : Prop := ∀ call ∈ sent, call.isStatement = false

theorem unsent_nil : Unsent [] := fun _ hcall => absurd hcall List.not_mem_nil

/-- Opening and closing sends nothing. -/
theorem unsent_of_brackets {sent : List Call}
    (h : sent = .isOpen :: [] ∨ sent = .isOpen :: .openUp :: ([] ++ [.close])) : Unsent sent := by
  rcases h with rfl | rfl <;> simp [Unsent, Call.isStatement]

/-- **Whatever is answered, a refused operation has sent no statement and kept none.** -/
theorem Operation.always_unsent (mapper : Mapper) (operation : Operation) (cache : Cache) :
    (operation.action mapper).Always cache fun sent result cache' =>
      ∀ e, result = .error e → e.refuses = true →
        Unsent sent ∧ cache'.statements = cache.statements := by
  cases hinserted : operation.inserted with
  | none =>
      refine (operation.checksFirst mapper hinserted cache).mono ?_
      intro sent result cache' h e he hrefuses
      obtain ⟨rfl, hkept⟩ := h.2 e he hrefuses
      exact ⟨unsent_nil, hkept⟩
  | some n =>
      cases n with
      | zero =>
          obtain ⟨ending, hdialogue, hkept⟩ := exists_dialogue_done mapper hinserted cache
          unfold Action.Always
          rw [hdialogue]
          exact fun _ _ _ => ⟨unsent_nil, hkept⟩
      | succ n =>
          obtain ⟨body, cache', hdialogue, hbody, hkept⟩ := exists_whileOpen mapper hinserted cache
          refine Action.Always.of_dialogue_eq ?_ hdialogue
          refine (Action.always_whileOpen (hbody cache')).mono ?_
          rintro sent result later (⟨inner, hinner, hsent⟩ | ⟨message, -, rfl, -⟩) e he hrefuses
          · obtain ⟨rfl, hsame⟩ := hinner.2 e he hrefuses
            exact ⟨unsent_of_brackets hsent, hsame.trans hkept⟩
          · -- the error of the connection is no refusal
            cases he
            cases hrefuses

/-! ### A tracked entity -/

namespace Mapper

variable (mapper : Mapper) (connection : String) (tracked : Tracked) (cache : Cache)

/-- **An update that fails leaves the tracked entity as it was**, with the changes to it. -/
theorem always_updateTracked_of_error :
    ((mapper.updateTracked connection).dialogue tracked cache).Always fun _ ending =>
      ∀ e, ending.1.1 = .error e → ending.1.2 = tracked := by
  rw [dialogue_updateTracked]
  cases tracked.dirty.only with
  | none => exact fun _ _ => rfl
  | some only =>
      refine Dialogue.always_bind_done.mpr (.of_forall _ fun sent ending e he => ?_)
      dsimp only at he ⊢
      rw [he]
      rfl

/-- One that is refused has sent no statement and kept none. -/
theorem always_updateTracked_unsent :
    ((mapper.updateTracked connection).dialogue tracked cache).Always fun sent ending =>
      ∀ e, ending.1.1 = .error e → e.refuses = true →
        Unsent sent ∧ ending.2.statements = cache.statements := by
  have h := (Operation.updateTracked connection tracked).always_unsent mapper cache
  refine (Dialogue.always_bind_done.mp h).mono fun sent ending hending e he => ?_
  exact hending e (congrArg (Except.map fun updated => (updated, ending.1.2)) he)

end Mapper

/-! ### A value that cannot be bound -/

namespace Action

variable {mapper : Mapper} {α β : Type}

/-- An action sends nothing and does not succeed. -/
def Fails (action : Action α) : Prop :=
  ∀ cache, action.Always cache fun sent result _ => sent = [] ∧ ∃ e, result = .error e

namespace Fails

theorem lift {e : Error} {x : Except Error α} (hx : x = .error e) :
    Fails (liftM x : Action α) := by
  subst hx
  exact fun _ => ⟨rfl, e, rfl⟩

theorem throw_bind (e : Error) (f : α → Action β) :
    Fails ((MonadExcept.throw e : Action α) >>= f) :=
  fun _ => ⟨rfl, e, rfl⟩

/-- What was to go on does not matter after a failure. -/
theorem bind {x : Action α} (hx : Fails x) (f : α → Action β) : Fails (x >>= f) := by
  intro cache
  refine always_bind ((hx cache).mono ?_)
  rintro sent result cache' ⟨hsent, e, rfl⟩
  exact ⟨hsent, e, rfl⟩

/-- A check that may fail already, and what fails after it. -/
theorem lift_bind {x : Except Error α} {f : α → Action β} (hf : ∀ a, x = .ok a → Fails (f a)) :
    Fails ((liftM x : Action α) >>= f) := by
  cases x with
  | error e => exact fun _ => ⟨rfl, e, rfl⟩
  | ok a => exact hf a rfl

theorem ite {p : Prop} [Decidable p] {x y : Action α} (hx : Fails x) (hy : Fails y) :
    Fails (if p then x else y) := by
  split
  · exact hx
  · exact hy

/-- What fails on an open connection fails on a closed one, without a statement. -/
theorem whileOpen {body : Action α} (hbody : Fails body) (cache : Cache) :
    (Mapper.whileOpen body).Always cache fun sent result _ =>
      Unsent sent ∧ ∃ e, result = .error e := by
  refine (always_whileOpen (hbody cache)).mono ?_
  rintro sent result later (⟨inner, ⟨rfl, hfailed⟩, hsent⟩ | ⟨message, rfl, rfl, -⟩)
  · exact ⟨unsent_of_brackets hsent, hfailed⟩
  · exact ⟨by simp [Unsent, Call.isStatement], _, rfl⟩

end Fails

end Action

/-- What cannot be bound is found out when the text is written. -/
theorem exists_error_of_not_bindable {style : Style} {tokens : List Token} {vs : List Value}
    (hsub : ∀ v ∈ vs, v ∈ values tokens) (h : ¬ Bindable vs) :
    ∃ e, Query.build style tokens = .error e := by
  cases hbuild : Query.build style tokens with
  | error e => exact ⟨e, rfl⟩
  | ok query => exact absurd (fun v hv => bindable_of_build hbuild v (hsub v hv)) h

/-- One row that cannot be bound, among several, is found out. -/
theorem exists_error_of_row (style : Style) (insert : Insert) {row : List Value}
    (hrow : row ∈ insert.rows) (h : ¬ Bindable row) :
    ∃ e, Query.build style (insert.tokens .nothing) = .error e := by
  refine exists_error_of_not_bindable (fun v hv => ?_) h
  rw [values_insert]
  exact List.mem_flatten.mpr ⟨row, hrow, hv⟩

/-- One key that cannot be bound, among the conditions of several, is found out. -/
theorem exists_error_of_keyMatch? (dialect : Dialect) (table : String) {keys : List Property}
    {vs : List Value} {conditions : List (Option Condition)} (hvs : vs.length = keys.length)
    (h : ¬ Bindable vs) (hmem : Mapper.keyMatch? dialect keys vs ∈ conditions) :
    ∃ e, Query.build dialect.style (Delete.tokens
      ⟨table, (Condition.joinAll? .or (conditions.filterMap id)).toList⟩) = .error e := by
  refine exists_error_of_not_bindable (fun v hv => ?_) h
  have hvalues := Template.values_keyMatch? dialect keys hvs
  show v ∈ values (whereTokens _)
  rw [values_joined, List.mem_flatMap]
  cases hmatch : Mapper.keyMatch? dialect keys vs with
  | none =>
      -- a key without a column has no values
      rw [hmatch] at hvalues
      rw [← hvalues] at hv
      cases hv
  | some c =>
      rw [hmatch] at hvalues hmem
      exact ⟨c, List.mem_filterMap.mpr ⟨some c, hmem, rfl⟩, hvalues ▸ hv⟩

namespace Action

variable {mapper : Mapper} {α : Type} {cache : Cache} {type : EntityType} {records : List Record}
  {record : Record} {vs : List Value}

/-- What goes on from the descriptor of a type goes on from the one that is built for it. -/
theorem always_describe_bind {f : Descriptor → Action α}
    {P : List Call → Except Error α → Cache → Prop} (hc : cache.Valid mapper)
    (hf : ∀ cache', (f (Descriptor.build mapper.tableRule type)).Always cache' P) :
    (mapper.describe type >>= f).Always cache P := by
  obtain ⟨cache', -, hdescribe⟩ := Transparent.dialogue_describe hc type
  unfold Always
  rw [dialogue_bind, hdescribe]
  exact hf cache'

/-- One entity whose keys cannot be bound keeps all from being deleted. -/
theorem always_deleteMany_fails (hc : cache.Valid mapper) (connection : String)
    (hmem : record ∈ records)
    (hvs : type.valuesOf record (Descriptor.build mapper.tableRule type).allKeys = .ok vs)
    (hbind : ¬ Bindable vs) :
    (mapper.deleteMany connection type records).Always cache fun sent result _ =>
      sent = [] ∧ ∃ e, result = .error e := by
  refine always_describe_bind hc (Fails.lift_bind fun keys hkeys => ?_)
  refine .ite (.throw_bind _ _) ?_
  obtain rfl := Descriptor.eq_allKeys_of_requireKeys hkeys
  -- the conditions of all entities are worked out first, and then the text is written
  rw [mapM_keyCondition]
  refine Fails.lift_bind fun conditions hconditions => ?_
  obtain ⟨b, hb, hmatch⟩ := (mem_of_mapM_eq_ok hconditions).2 record hmem
  rw [Mapper.keyCondition, hvs] at hmatch
  obtain rfl := Except.ok.inj hmatch
  obtain ⟨e, he⟩ := exists_error_of_keyMatch? (mapper.dialectFor connection)
    (Descriptor.build mapper.tableRule type).table (length_of_takeValues hvs) hbind hb
  refine Fails.lift_bind fun query hquery => ?_
  cases he.symm.trans hquery

/-- One entity with a value that cannot be bound keeps all from being inserted. -/
theorem always_insertMany_fails (hc : cache.Valid mapper) (connection : String)
    (hmem : record ∈ records)
    (hvs : type.valuesOf record (Descriptor.build mapper.tableRule type).insertable = .ok vs)
    (hbind : ¬ Bindable vs) :
    (mapper.insertMany connection type records).Always cache fun sent result _ =>
      Unsent sent ∧ ∃ e, result = .error e := by
  refine always_describe_bind hc fun cache' => ?_
  cases records with
  | nil => cases hmem
  | cons first rest =>
      refine Fails.whileOpen ?_ cache'
      rw [mapM_lift]
      refine Fails.lift_bind fun rows hrows => Fails.lift_bind fun insert hinsert => ?_
      obtain rfl := eq_of_check hinsert
      obtain ⟨row, hrow, hvalues⟩ := (mem_of_mapM_eq_ok hrows).2 record hmem
      obtain rfl := Except.ok.inj (hvalues.symm.trans hvs)
      obtain ⟨e, he⟩ := exists_error_of_row (mapper.dialectFor connection).style
        (Mapper.insertOf (Descriptor.build mapper.tableRule type) (mapper.dialectFor connection)
          rows) hrow hbind
      refine Fails.lift_bind fun query hquery => ?_
      cases he.symm.trans hquery

end Action

/-! ### On a connection -/

/-- **A refused request does not reach the database.**  If an operation ends with an error that says
that the request was wrong (`Error.refuses`), no statement was sent (`Unsent`) and the statements
that are kept are the same, whatever the cache holds.  An update of a tracked entity that fails, for
whatever reason, leaves the entity and its changes as they were.  Once the count of a selection
could be written, so can every page of it.  And one entity with values that are not `Bindable`,
wherever it stands among several, keeps the statement for all of them from being sent. -/
theorem refusals_unsent {σ : Type} (mapper : Mapper) (cache : Cache)
    (answer : (c : Call) → σ → c.Answer × σ) (s : σ) :
    (∀ (operation : Operation) (e : Error),
      let seen := ((operation.action mapper).dialogue cache).transcript answer s
      seen.2.1.1 = .error e → e.refuses = true →
        Unsent seen.1 ∧ seen.2.1.2.statements = cache.statements) ∧
    (∀ (connection : String) (tracked : Tracked) (e : Error),
      let seen := ((mapper.updateTracked connection).dialogue tracked cache).transcript answer s
      seen.2.1.1.1 = .error e → seen.2.1.1.2 = tracked ∧
        (e.refuses = true → Unsent seen.1 ∧ seen.2.1.2.statements = cache.statements)) ∧
    (∀ (selection : Selection) (property : Property) (direction : Direction) (window : Window)
      (query : Query),
      Query.build selection.dialect.style (selection.select .count []).tokens = .ok query →
      ∃ later, Query.build selection.dialect.style
        ((selection.page property direction window).tokens selection.dialect.style.paging) =
          .ok later) ∧
    (cache.Valid mapper → ∀ (connection : String) (type : EntityType) (records : List Record),
      ∀ record ∈ records, ∀ vs : List Value, ¬ Bindable vs →
      (type.valuesOf record (Descriptor.build mapper.tableRule type).insertable = .ok vs →
        let seen :=
          ((mapper.insertMany connection type records).dialogue cache).transcript answer s
        Unsent seen.1 ∧ ∃ e, seen.2.1.1 = .error e) ∧
      (type.valuesOf record (Descriptor.build mapper.tableRule type).allKeys = .ok vs →
        let seen :=
          ((mapper.deleteMany connection type records).dialogue cache).transcript answer s
        Unsent seen.1 ∧ ∃ e, seen.2.1.1 = .error e)) := by
  refine ⟨?_, ?_, ?_, ?_⟩
  · intro operation e seen he hrefuses
    exact (operation.always_unsent mapper cache).transcript answer s e he hrefuses
  · intro connection tracked e seen he
    exact ⟨(mapper.always_updateTracked_of_error connection tracked cache).transcript answer s e he,
      (mapper.always_updateTracked_unsent connection tracked cache).transcript answer s e he⟩
  · intro selection property direction window query hquery
    exact exists_build_page (selection.page property direction window)
      selection.dialect.style.paging hquery
  · intro hcache connection type records record hmem vs hbind
    constructor
    · intro hvs
      exact (Action.always_insertMany_fails hcache connection hmem hvs hbind).transcript answer s
    · intro hvs
      have hfails :=
        (Action.always_deleteMany_fails hcache connection hmem hvs hbind).transcript answer s
      refine ⟨?_, hfails.2⟩
      rw [hfails.1]
      exact unsent_nil

/-- A note with a text that is bound as a date and time with its own distance from UTC. -/
def Sample.zonedNote : Record :=
  [("id", .present (.int64 2)), ("body", .custom ⟨"", .zoned none⟩)]

/-- Two notes are inserted over a closed connection, and the second cannot be bound. -/
theorem refusals_unsent_notes :
    let seen := ((Mapper.standard.insertMany "FbConnection" Sample.note
      [Sample.noteOf 1 "a", Sample.zonedNote]).dialogue .empty).transcript Recording.answer
        Sample.failing
    Unsent seen.1 ∧ (∃ e, seen.2.1.1 = .error e ∧ e.refuses = true) ∧
      seen.2.1.2.statements = [] := by
  have h := refusals_unsent .standard .empty Recording.answer Sample.failing
  have hbind : ¬ Bindable [.zoned none] := by
    intro hbind
    obtain ⟨d, hd⟩ := hbind (.zoned none) List.mem_cons_self
    cases hd
  have hunsent := (h.2.2.2 Cache.valid_empty "FbConnection" Sample.note
    [Sample.noteOf 1 "a", Sample.zonedNote] Sample.zonedNote (by simp) [.zoned none] hbind).1 rfl
  have hkept := h.1 (.insertMany "FbConnection" Sample.note
    [Sample.noteOf 1 "a", Sample.zonedNote]) (.argument (.unbindable (.zoned none))) rfl rfl
  exact ⟨hunsent.1, ⟨_, rfl, rfl⟩, hkept.2⟩

end RowMapper
