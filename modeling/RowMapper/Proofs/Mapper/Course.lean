import RowMapper.Proofs.Mapper.Operation
import RowMapper.Proofs.Mapper.Walk
import RowMapper.Proofs.Paging.CursorPage

/-!
# The course of every operation

Every operation of a mapper is a walk, or opens a connection for one.

* `OverAnswer` — a step that fails over an answer only, with the steps of the mapper that do;
* `Operation.Walk` — a walk with the statements and the errors of an operation, and its steps
  `Walk.check`, `Walk.values`, `Walk.build`;
* `Operation.course` — the course of every operation;
* `Operation.transparent` — so the cache makes no difference to any of them.

### Between two statements

A page is asked for after its rows have been counted, and both statements bind values.  That the
second one can be built does not follow from the shape of the operation; it follows from the
values, which are those of the first one and two numbers (`exists_build_page`).
-/

namespace RowMapper

open Sql

/-! ### Steps on an answer -/

/-- If the step fails, then over what was answered. -/
def OverAnswer {α : Type} (x : Except Error α) : Prop := ∀ e, x = .error e → e.overAnswer = true

namespace OverAnswer

variable {α β : Type}

theorem ok (a : α) : OverAnswer (.ok a) := fun _ he => nomatch he

theorem bind {x : Except Error α} {f : α → Except Error β} (hx : OverAnswer x)
    (hf : ∀ a, OverAnswer (f a)) : OverAnswer (x >>= f) := by
  cases x with
  | ok a => exact hf a
  | error e =>
      intro e' he
      cases he
      exact hx e rfl

theorem map {x : Except Error α} (f : α → β) (hx : OverAnswer x) : OverAnswer (f <$> x) :=
  fun e he => hx e (map_eq_error_iff.mp he)

theorem mapM {f : α → Except Error β} (hf : ∀ a, OverAnswer (f a)) (as : List α) :
    OverAnswer (as.mapM f) := by
  intro e he
  obtain ⟨a, -, ha⟩ := exists_of_mapM_eq_error he
  exact hf a e ha

theorem fetchField (own : OwnTypes) (row : Row) (field : Field) :
    OverAnswer (EntityType.fetchField own row field) := by
  intro e he
  unfold EntityType.fetchField at he
  split at he
  · have hfetch := map_eq_error_iff.mp he
    unfold fetchColumn at hfetch
    split at hfetch <;> cases hfetch
    rfl
  · cases he

/-- A row that is no entity is answered, and not asked for. -/
theorem fromRow (type : EntityType) (own : OwnTypes) (row : Row) :
    OverAnswer (type.fromRow own row) :=
  mapM (fetchField own row) type.fields

theorem entities (selection : Selection) (rows : List Row) :
    OverAnswer (selection.entities rows) :=
  mapM (fromRow selection.type selection.mapper.own) rows

theorem identity (d : Datum) : OverAnswer d.identity := by
  intro e he
  unfold Datum.identity at he
  split at he
  · cases he
  · split at he
    · cases he
    · split at he <;> cases he
      rfl
    · split at he <;> cases he
      rfl

theorem firstIdentity (rows : List Row) (column : String) :
    OverAnswer (firstIdentity rows column) := by
  unfold RowMapper.firstIdentity
  split
  · exact identity _
  · exact ok 0

theorem cursorOf (row : Row) (sort : Property) : OverAnswer (Selection.cursorOf row sort) := by
  intro e he
  unfold Selection.cursorOf at he
  split at he
  · split at he <;> cases he
    rfl
  · cases he
    rfl

theorem cursorPage (selection : Selection) (sort : Property) (pageSize : UInt64)
    (rows : List Row) : OverAnswer (selection.cursorPage sort pageSize rows) := by
  have hpage (next : Option String) : OverAnswer (do
      return (⟨← selection.entities (rows.take pageSize.toNat), pageSize,
        decide (pageSize.toNat < rows.length), next⟩ : CursorPage Record)) :=
    (entities selection _).bind fun _ => ok _
  unfold Selection.cursorPage
  dsimp only
  split
  · split
    · exact ((cursorOf _ sort).map some).bind hpage
    · exact (ok none).bind hpage
  · exact (ok none).bind hpage

end OverAnswer

/-! ### Steps on a request -/

theorem Error.wantsValue_of_overAnswer {e : Error} (h : e.overAnswer = true) :
    e.wantsValue = false := by
  unfold overAnswer at h
  split at h <;> first | rfl | cases h

/-- A statement that cannot be written does not want a value; it has one that cannot be bound. -/
theorem wantsValue_of_build {style : Style} {tokens : List Token} {e : Error}
    (h : Query.build style tokens = .error e) : e.wantsValue = false := by
  obtain ⟨v, rfl⟩ := exists_unbindable_of_build h
  rfl

theorem wantsValue_of_requireKeys {descriptor : Descriptor} {operation : String} {e : Error}
    (h : descriptor.requireKeys operation = .error e) : e.wantsValue = false := by
  unfold Descriptor.requireKeys at h
  split at h
  · obtain rfl := Except.error.inj h
    rfl
  · cases h

theorem wantsValue_of_check {insert : Insert} {e : Error} (h : insert.check = .error e) :
    e.wantsValue = false := by
  unfold Insert.check at h
  split at h
  · obtain rfl := Except.error.inj h
    rfl
  · cases h

theorem eq_of_check {insert checked : Insert} (h : insert.check = .ok checked) :
    checked = insert := by
  unfold Insert.check at h
  split at h
  · cases h
  · exact (Except.ok.inj h).symm

namespace Operation

variable {mapper : Mapper} {valid : Prop} {operation : Operation} {α : Type}

/-- A walk with statements that an operation may send, and with the errors of the operation. -/
abbrev Walk (mapper : Mapper) (valid : Prop) (operation : Operation) (phase : Phase)
    (x : Action α) : Prop :=
  Action.Walk mapper valid (fun query => valid → operation.MaySend mapper query)
    (fun e => e.wantsValue = true → valid → operation.Wants mapper e) phase x

namespace Walk

/-- Another error than that of a missing value. -/
theorem wants_of_not {e : Error} (h : e.wantsValue = false) :
    e.wantsValue = true → valid → operation.Wants mapper e := by
  intro hwants
  rw [h] at hwants
  cases hwants

/-- A step that asks no entity for values. -/
theorem check {β : Type} {x : Except Error β} {f : β → Action α}
    (hx : ∀ e, x = .error e → e.wantsValue = false)
    (hf : ∀ b, x = .ok b → operation.Walk mapper valid .asking (f b)) :
    operation.Walk mapper valid .asking ((liftM x : Action β) >>= f) :=
  .step (fun e he => wants_of_not (hx e he)) hf

/-- An entity of the operation is asked for values. -/
theorem values {record : Record} {properties : List Property} {f : List Value → Action α}
    (hrecord : ∀ records, operation.entities? = some records → record ∈ records)
    (hasks : valid → (Descriptor.build mapper.tableRule operation.type).Asks properties)
    (hf : ∀ vs, operation.type.valuesOf record properties = .ok vs →
      operation.Walk mapper valid .asking (f vs)) :
    operation.Walk mapper valid .asking
      ((liftM (operation.type.valuesOf record properties) : Action (List Value)) >>= f) := by
  refine .step (fun e he _ hvalid records hrecords => ?_) hf
  exact ⟨record, hrecord records hrecords, properties, hasks hvalid, he⟩

/-- A statement is written for values that can be bound. -/
theorem build {style : Style} {tokens : List Token} {f : Query → Action α}
    (hf : ∀ query, Query.build style tokens = .ok query →
      operation.Walk mapper valid .asking (f query)) :
    operation.Walk mapper valid .asking
      ((liftM (Query.build style tokens) : Action Query) >>= f) :=
  check (fun _ he => wantsValue_of_build he) hf

/-- The only entity of an operation. -/
theorem mem_of_single {record : Record} (records : List Record)
    (h : some [record] = some records) : record ∈ records :=
  Option.some.inj h ▸ List.mem_cons_self

/-- An operation that asks no entity for values has any error. -/
theorem wants_of_reading (h : operation.entities? = none) (e : Error) :
    e.wantsValue = true → valid → operation.Wants mapper e := by
  intro _ _ records hrecords
  rw [h] at hrecords
  cases hrecords

/-! ### Reading, updating and deleting -/

theorem get (connection : String) (type : EntityType) (id : Value) :
    (Operation.get connection type id).Walk mapper valid .asking
      (mapper.get connection type id) := by
  refine .describe fun descriptor hd => .step (fun e _ => wants_of_reading rfl e) fun key hkey => ?_
  refine .keep (fun hvalid => ?_) (fun e _ => wants_of_reading rfl e) fun query hquery =>
    .query (fun hvalid => ?_) fun rows => ?_
  · obtain rfl := hd hvalid
    exact ⟨_, Mapper.template_get hkey _, rfl, rfl⟩
  · obtain rfl := hd hvalid
    exact .built (.get key) (hquery hvalid)
  · cases rows with
    | nil => exact .done none
    | cons row rest => exact .step (OverAnswer.fromRow type mapper.own row) fun record _ => .done _

theorem getAll (connection : String) (type : EntityType) :
    (Operation.getAll connection type).Walk mapper valid .asking
      (mapper.getAll connection type) := by
  refine .describe fun descriptor hd => ?_
  refine .keep (fun hvalid => ?_) (fun e _ => wants_of_reading rfl e) fun query hquery =>
    .query (fun hvalid => ?_) fun rows => ?_
  · obtain rfl := hd hvalid
    exact ⟨_, rfl, rfl, rfl⟩
  · obtain rfl := hd hvalid
    exact .built .getAll (hquery hvalid)
  · rw [Action.mapM_lift]
    exact .result (OverAnswer.mapM (OverAnswer.fromRow type mapper.own) rows)

/-- The properties that are written are among those that can be. -/
theorem asks_columns (descriptor : Descriptor) (only : Option (List String)) :
    descriptor.Asks (match only with
      | none => descriptor.updatable
      | some names => descriptor.updatable.filter fun p => names.contains p.name) := by
  cases only with
  | none => exact .updatable (List.Sublist.refl _)
  | some names => exact .updatable List.filter_sublist

/-- An update of an entity, tracked or not. -/
theorem updateColumns {record : Record} (only : Option (List String))
    (hrecord : ∀ records, operation.entities? = some records → record ∈ records)
    (hwrites : ∀ columns keys vs, operation.Writes mapper
      (Mapper.updateOf (mapper.dialectFor operation.connection)
        (Descriptor.build mapper.tableRule operation.type).table columns keys vs).tokens) :
    operation.Walk mapper valid .asking
      (mapper.updateColumns operation.connection operation.type record only) := by
  refine .describe fun descriptor hd =>
    check (fun _ he => wantsValue_of_requireKeys he) fun keys hkeys => ?_
  refine .ite (.throw_bind ?_ _) (.ite (.done false) ?_)
  · exact wants_of_not rfl
  have hall : valid → (Descriptor.build mapper.tableRule operation.type).Asks keys := by
    intro hvalid
    obtain rfl := hd hvalid
    exact Descriptor.eq_allKeys_of_requireKeys hkeys ▸ .allKeys
  refine values hrecord (fun hvalid => hd hvalid ▸ asks_columns _ only) fun assigned hassigned =>
    values hrecord hall fun identifying hidentifying => ?_
  cases only with
  | none =>
      refine .keep (fun hvalid => ?_) (fun e he => wants_of_not (wantsValue_of_build he))
        fun query hquery => .exec (fun hvalid => ?_) fun affected => .done _
      · obtain rfl := hd hvalid
        exact ⟨_, Mapper.template_update hkeys _, rfl,
          length_append_of_takeValues hassigned hidentifying⟩
      · obtain rfl := hd hvalid
        exact .built (hwrites _ _ _) (hquery hvalid)
  | some names =>
      refine build fun query hquery => .exec (fun hvalid => ?_) fun affected => .done _
      obtain rfl := hd hvalid
      exact .built (hwrites _ _ _) hquery

theorem updateTracked (connection : String) (tracked : Tracked) :
    (Operation.updateTracked connection tracked).Walk mapper valid .asking
      ((mapper.updateTracked connection).holding tracked) := by
  rw [Mapper.holding_updateTracked]
  cases tracked.dirty.only with
  | none => exact .done _
  | some only =>
      exact .bind (fun e he => wants_of_not (Error.wantsValue_of_overAnswer he))
        (updateColumns only mem_of_single fun _ _ _ => .updateTracked _ _ _) fun updated => .done _

theorem delete (connection : String) (type : EntityType) (record : Record) :
    (Operation.delete connection type record).Walk mapper valid .asking
      (mapper.delete connection type record) := by
  refine .describe fun descriptor hd =>
    check (fun _ he => wantsValue_of_requireKeys he) fun keys hkeys => ?_
  refine values mem_of_single (fun hvalid => ?_) fun vs hvs => ?_
  · obtain rfl := hd hvalid
    exact Descriptor.eq_allKeys_of_requireKeys hkeys ▸ .allKeys
  refine .keep (fun hvalid => ?_) (fun e he => wants_of_not (wantsValue_of_build he))
    fun query hquery => .exec (fun hvalid => ?_) fun affected => .done _
  · obtain rfl := hd hvalid
    exact ⟨_, Mapper.template_delete hkeys _, rfl, length_of_takeValues hvs⟩
  · obtain rfl := hd hvalid
    exact .built (.delete keys vs) (hquery hvalid)

theorem deleteAll (connection : String) (type : EntityType) :
    (Operation.deleteAll connection type).Walk mapper valid .asking
      (mapper.deleteAll connection type) := by
  refine .describe fun descriptor hd => ?_
  refine .keep (fun hvalid => ?_) (fun e _ => wants_of_reading rfl e) fun query hquery =>
    .exec (fun hvalid => ?_) fun affected => .done _
  · obtain rfl := hd hvalid
    exact ⟨_, rfl, rfl, rfl⟩
  · obtain rfl := hd hvalid
    exact .built .deleteAll (hquery hvalid)

theorem deleteMany (connection : String) (type : EntityType) (records : List Record) :
    (Operation.deleteMany connection type records).Walk mapper valid .asking
      (mapper.deleteMany connection type records) := by
  refine .describe fun descriptor hd =>
    check (fun _ he => wantsValue_of_requireKeys he) fun keys hkeys => ?_
  refine .ite (.throw_bind ?_ _) ?_
  · exact wants_of_not rfl
  rw [Action.mapM_keyCondition]
  refine .step (fun e he => ?_) fun conditions hconditions => ?_
  · intro _ hvalid others hothers
    obtain rfl := hd hvalid
    obtain rfl := Option.some.inj hothers
    obtain ⟨record, hmem, he⟩ := exists_of_mapM_eq_error he
    refine ⟨record, hmem, keys, ?_, map_eq_error_iff.mp he⟩
    exact Descriptor.eq_allKeys_of_requireKeys hkeys ▸ .allKeys
  · refine build fun query hquery => .exec (fun hvalid => ?_) fun affected => .done _
    obtain rfl := hd hvalid
    refine .built (.deleteMany fun condition hcondition => ?_) hquery
    obtain ⟨record, -, hrecord⟩ := (mem_of_mapM_eq_ok hconditions).1 condition hcondition
    obtain ⟨vs, -, rfl⟩ := exists_of_map_eq_ok hrecord
    exact ⟨keys, vs, rfl⟩

/-! ### Inserting -/

/-- What an insert of one entity does on an open connection. -/
theorem insertReturning (connection : String) {type : EntityType} {record : Record}
    {descriptor : Descriptor} {vs : List Value} (keys : List Property)
    (hd : valid → descriptor = Descriptor.build mapper.tableRule type)
    (hvs : type.valuesOf record descriptor.insertable = .ok vs) :
    (Operation.insert connection type record).Walk mapper valid .asking
      (mapper.insertReturning (mapper.dialectFor connection)
        (Mapper.insertOf descriptor (mapper.dialectFor connection) [vs]) keys) := by
  refine check (fun _ he => wantsValue_of_check he) fun insert hinsert => ?_
  obtain rfl := eq_of_check hinsert
  have hwrites (returning : Returning) (hreturning : ∀ name, returning = .column name →
      ∃ column, name = (mapper.dialectFor connection).column column) (hvalid : valid) :
      (Operation.insert connection type record).Writes mapper
        ((Mapper.insertOf descriptor (mapper.dialectFor connection) [vs]).tokens returning) := by
    obtain rfl := hd hvalid
    exact .insert hvs hreturning
  have hnothing := hwrites .nothing fun _ h => nomatch h
  dsimp only
  split
  all_goals refine build fun query hquery => ?_
  · have hstar := hwrites .star fun _ h => nomatch h
    exact .query (fun hvalid => .built (hstar hvalid) hquery) fun rows => .done _
  · exact .exec (fun hvalid => .built (hnothing hvalid) hquery) fun affected => .done _
  · have hcolumn (s : String) := hwrites (.column ((mapper.dialectFor connection).column s))
      fun name h => ⟨s, (Returning.column.inj h).symm⟩
    exact .query (fun hvalid => .built (hcolumn _ hvalid) hquery) fun rows =>
      .result (OverAnswer.firstIdentity rows _)
  · next hread _ =>
      exact .query (fun hvalid => .appended (hnothing hvalid) hquery hread) fun rows =>
        .result (OverAnswer.firstIdentity rows _)
  · next hread _ =>
      refine .exec (fun hvalid => .built (hnothing hvalid) hquery) fun _ => ?_
      exact .query (fun _ => .alone hread) fun rows => .result (OverAnswer.firstIdentity rows _)

/-- What an insert of several entities does on an open connection. -/
theorem insertRows (connection : String) (type : EntityType) (records : List Record)
    {descriptor : Descriptor} (hd : valid → descriptor = Descriptor.build mapper.tableRule type) :
    (Operation.insertMany connection type records).Walk mapper valid .asking (do
      let rows ← records.mapM fun record =>
        (type.valuesOf record descriptor.insertable : Except Error (List Value))
      let insert ← (Mapper.insertOf descriptor (mapper.dialectFor connection) rows).check
      let affected ← mapper.exec
        (← Query.build (mapper.dialectFor connection).style (insert.tokens .nothing))
      return signedCount affected.toNat) := by
  rw [Action.mapM_lift]
  refine .step (fun e he => ?_) fun rows _ => ?_
  · intro _ hvalid others hothers
    obtain rfl := hd hvalid
    obtain rfl := Option.some.inj hothers
    obtain ⟨record, hmem, he⟩ := exists_of_mapM_eq_error he
    exact ⟨record, hmem, _, .insertable, he⟩
  · refine check (fun _ he => wantsValue_of_check he) fun insert hinsert => ?_
    obtain rfl := eq_of_check hinsert
    refine build fun query hquery => .exec (fun hvalid => ?_) fun affected => .done _
    obtain rfl := hd hvalid
    exact .built (.insertMany rows) hquery

end Walk

end Operation

/-! ### Selecting -/

/-- A cursor changes the filters. -/
theorem Selection.exists_filters_of_after {selection later : Selection} {sort : Property}
    {direction : Direction} {cursor : Option String}
    (h : selection.after sort direction cursor = .ok later) :
    ∃ filters, later = { selection with filters } := by
  cases cursor with
  | none => exact ⟨selection.filters, (Except.ok.inj h).symm⟩
  | some token =>
      obtain ⟨d, -, h⟩ := exists_of_bind_eq_ok h
      exact ⟨_, (Except.ok.inj h).symm⟩

namespace Action.Walk

section Ends

variable {valid : Prop} {S : Query → Prop} {E : Error → Prop} {selection : Selection}
  (hS : ∀ tokens query, selection.Writes tokens →
    Query.build selection.dialect.style tokens = .ok query → S query) (hE : ∀ e, E e)

include hE in
/-- The rows of a statement of the selection, and what is made of them. -/
theorem rows_bind {α : Type} {mapper : Mapper} (hmapper : selection.mapper = mapper)
    {tokens : List Token} {f : List Row → Action α}
    (hS : ∀ query, Query.build selection.dialect.style tokens = .ok query → S query)
    (hf : ∀ rows, Walk mapper valid S E .answered (f rows)) :
    Walk mapper valid S E .asking (selection.rows tokens >>= f) := by
  subst hmapper
  rw [Selection.rows, bind_assoc]
  exact step (fun e _ => hE e) fun query hquery => .query (hS query hquery) hf

/-- What is made of the row of a count. -/
theorem counted (rows : List Row) : Walk selection.mapper valid S E .answered
    (match rows.head?.bind Row.first? with
      | none => pure 0
      | some d => do
        let count ← d.identity
        return UInt64.ofNat count.toNat) := by
  cases rows.head?.bind Row.first? with
  | none => exact done 0
  | some d => exact step (OverAnswer.identity d) fun count _ => done _

include hS hE

theorem countRows : Walk selection.mapper valid S E .asking selection.countRows :=
  rows_bind hE rfl (fun query => hS _ query .count) fun rows => counted rows

theorem fetch : Walk selection.mapper valid S E .asking selection.fetch := by
  refine step (fun e _ => hE e) fun _ _ => ?_
  have hordered (order : List (Ident × Direction))
      (horder : ∀ entry ∈ order, ∃ column, entry.1 = selection.dialect.column column) :
      Walk selection.mapper valid S E .asking
        (selection.rows (selection.select .star order).tokens >>= fun rows =>
          liftM (selection.entities rows)) :=
    rows_bind hE rfl (fun query => hS _ query (.rows horder)) fun rows =>
      result (OverAnswer.entities selection rows)
  cases selection.order with
  | none => exact hordered [] fun _ h => absurd h List.not_mem_nil
  | some order =>
      refine step (fun e _ => hE e) fun property _ => hordered _ fun entry hentry => ?_
      obtain rfl := List.mem_singleton.mp hentry
      exact ⟨property.column, rfl⟩

theorem count : Walk selection.mapper valid S E .asking selection.count :=
  step (fun e _ => hE e) fun _ _ => countRows hS hE

/-- What comes after the count cannot be refused: the page binds what the count did, and two
numbers. -/
theorem fetchPage (page perPage : UInt64) :
    Walk selection.mapper valid S E .asking (selection.fetchPage page perPage) := by
  refine step (fun e _ => hE e) fun _ _ => step (fun e _ => hE e) fun sort _ => ?_
  obtain ⟨property, direction⟩ := sort
  dsimp only
  rw [Selection.countRows, Selection.rows, bind_assoc, bind_assoc]
  refine step (fun e _ => hE e) fun query hquery =>
    .query (hS _ query .count hquery) fun found => ?_
  obtain ⟨later, hlater⟩ := exists_build_page
    (selection.page property direction (.page (max page 1) (max perPage 1)))
    selection.dialect.style.paging hquery
  refine bind (fun e _ => hE e) (counted found) fun total => ?_
  rw [Selection.pageRows, Selection.rows, hlater]
  have hnone : selection.after property direction none = .ok selection := rfl
  exact .query (hS _ later (.page hnone _) hlater) fun rows =>
    step (OverAnswer.entities selection rows) fun items _ => done _

theorem fetchCursor (cursor : Option String) (pageSize : UInt64) :
    Walk selection.mapper valid S E .asking (selection.fetchCursor cursor pageSize) := by
  rw [Selection.fetchCursor_eq]
  refine step (fun e _ => hE e) fun _ _ => step (fun e _ => hE e) fun sort _ =>
    step (fun e _ => hE e) fun later hlater => ?_
  obtain ⟨filters, rfl⟩ := Selection.exists_filters_of_after hlater
  exact rows_bind hE rfl (fun query => hS _ query (.page hlater _)) fun rows =>
    result (OverAnswer.cursorPage _ sort.1 _ rows)

end Ends

end Action.Walk

/-- Whatever is made of the rows of a selection. -/
theorem SelectionEnd.walk {mapper : Mapper} {valid : Prop} {S : Query → Prop} {E : Error → Prop}
    {selection : Selection} (hmapper : selection.mapper = mapper) (ending : SelectionEnd)
    (hS : ∀ tokens query, selection.Writes tokens →
      Query.build selection.dialect.style tokens = .ok query → S query) (hE : ∀ e, E e) :
    Action.Walk mapper valid S E .asking (ending.action selection) := by
  subst hmapper
  cases ending with
  | entities => exact .fetch hS hE
  | count => exact .count hS hE
  | page number perPage => exact .fetchPage hS hE number perPage
  | cursor token pageSize => exact .fetchCursor hS hE token pageSize

namespace Operation

/-- **Every operation is a walk, opens a connection for one, or does nothing**, with the statements
that it may send and the errors that it may end with. -/
theorem course (mapper : Mapper) (valid : Prop) (operation : Operation) :
    Action.Course mapper valid (fun query => valid → operation.MaySend mapper query)
      (fun e => e.wantsValue = true → valid → operation.Wants mapper e) operation.inserted
      (operation.action mapper) := by
  cases operation with
  | get connection type id => exact .walk (Walk.get connection type id)
  | getAll connection type => exact .walk (Walk.getAll connection type)
  | insert connection type record =>
      refine .opening fun descriptor hd => ?_
      exact Walk.values Walk.mem_of_single (fun hvalid => hd hvalid ▸ .insertable) fun vs hvs =>
        Walk.insertReturning connection _ hd hvs
  | insertMany connection type records =>
      cases records with
      | nil => exact .nothing type (0 : Int)
      | cons record records =>
          exact .opening fun descriptor hd => Walk.insertRows connection type (record :: records) hd
  | update connection type record =>
      exact .walk (Walk.updateColumns none Walk.mem_of_single fun _ _ _ => .update _ _ _)
  | updateTracked connection tracked => exact .walk (Walk.updateTracked connection tracked)
  | delete connection type record => exact .walk (Walk.delete connection type record)
  | deleteMany connection type records => exact .walk (Walk.deleteMany connection type records)
  | deleteAll connection type => exact .walk (Walk.deleteAll connection type)
  | select connection type steps ending =>
      rw [action_select]
      refine .walk (.describe fun descriptor hd => ?_)
      obtain ⟨filters, order, fault, hfold⟩ := Selection.exists_foldl_apply
        ⟨mapper, type, descriptor, mapper.dialectFor connection, [], none, none⟩ steps
      refine SelectionEnd.walk ?_ ending (fun tokens query h hquery => ?_) fun e => ?_
      · rw [hfold]
      · intro hvalid
        rw [hfold] at hquery
        obtain rfl := hd hvalid
        exact .built (.select h) hquery
      · exact Walk.wants_of_reading rfl e

/-- **The cache makes no difference to any operation.** -/
theorem transparent (mapper : Mapper) (operation : Operation) :
    (operation.action mapper).Transparent mapper :=
  (operation.course mapper True).transparent

end Operation

end RowMapper
