import RowMapper.Proofs.Entity.Picking
import RowMapper.Proofs.Filter.Shape
import RowMapper.Proofs.Mapper.Alike
import RowMapper.Proofs.Mapper.Refusal

/-!
# No value reaches a text

Two requests that differ in their values only send the same texts.

* `together_valuesOf` — entities with the same properties go together;
* `Selection.Alike` — selections that are put together from such predicates;
* `Operation.Alike` — two requests that differ in their values only;
* `Operation.Alike.sameText` — one lemma for each operation, and from these the one for all;
* `texts_same` — on connections that answer both the same, they send the same texts.

### What the texts depend on

The values of an entity are looked up by the names of its properties, and nothing but their number
gets into a text.  Of a predicate its shape does, and of a window or a cursor nothing: both are
values of placeholders, and what a page makes of the rows comes after the last statement.
-/

namespace RowMapper

open Sql

/-! ### Entities -/

section Entities

variable {type : EntityType} {record record' : Record}

/-- Two entities with the same properties have contents for the same names. -/
theorem Record.isSome_get?_congr (h : record.map (·.1) = record'.map (·.1)) (name : String) :
    (record.get? name).isSome = (record'.get? name).isSome := by
  have hnames (record : Record) :
      (record.get? name).isSome = ((record.map (·.1)).find? (· == name)).isSome := by
    rw [get?, List.find?_map, Option.isSome_map, Option.isSome_map]
    rfl
  rw [hnames record, hnames record', h]

/-- They provide values for the same names, in the same order. -/
theorem map_name_values (h : record.map (·.1) = record'.map (·.1)) :
    (type.values record).map (·.1) = (type.values record').map (·.1) := by
  unfold EntityType.values
  rw [List.map_filterMap, List.map_filterMap]
  refine List.filterMap_congr fun name _ => ?_
  have hsome := Record.isSome_get?_congr h name
  cases hfirst : record.get? name <;> cases hsecond : record'.get? name <;>
    simp_all

/-- Whether a value is there for each property depends on the names only. -/
theorem together_takeValues (entity : String) (properties : List Property)
    {values values' : List (String × Value)} (h : values.map (·.1) = values'.map (·.1)) :
    Together (fun _ _ => True) (takeValues entity values properties)
      (takeValues entity values' properties) := by
  induction properties generalizing values values' with
  | nil => exact trivial
  | cons property rest ih =>
      have hfind (values : List (String × Value)) :
          (values.find? (·.1 == property.name)).isSome =
            ((values.map (·.1)).find? (· == property.name)).isSome := by
        rw [List.find?_map, Option.isSome_map]
        rfl
      have hleft (values : List (String × Value)) :
          (valuesLeft values property.name).map (·.1) =
            swapRemove (values.map (·.1)) ((values.map (·.1)).findIdx (· == property.name)) := by
        rw [valuesLeft, map_swapRemove, List.findIdx_map]
        rfl
      have hsome : (values.find? (·.1 == property.name)).isSome =
          (values'.find? (·.1 == property.name)).isSome := by
        rw [hfind values, hfind values', h]
      have hrest := @ih (valuesLeft values property.name) (valuesLeft values' property.name)
        (by rw [hleft values, hleft values', h])
      rw [takeValues, takeValues]
      cases hfirst : values.find? (·.1 == property.name) <;>
        cases hsecond : values'.find? (·.1 == property.name) <;> rw [hfirst, hsecond] at hsome
      · exact trivial
      · cases hsome
      · cases hsome
      · exact hrest.bind fun _ _ _ => trivial

/-- Two entities with the same properties have as many values for any list of properties, or lack
one alike. -/
theorem together_valuesOf (h : record.map (·.1) = record'.map (·.1)) (properties : List Property) :
    Together (fun vs ws => vs.length = properties.length ∧ ws.length = properties.length)
      (type.valuesOf record properties) (type.valuesOf record' properties) :=
  (together_takeValues type.name properties (map_name_values h)).imp fun _ _ hvs hws _ =>
    ⟨length_of_takeValues hvs, length_of_takeValues hws⟩

end Entities

/-! ### Predicates and cursors -/

section Predicates

variable {filter : Filter}

theorem refusing_column (property : String) : Refusing (filter.column property) := by
  have hproperty : Refusing (filter.descriptor.property property) := by
    unfold Descriptor.property
    split
    · exact .ok _
    · exact .error rfl
  exact hproperty.bind fun _ => .ok _

theorem refusing_comparison (property : String) (op : Comparison) (value : Value) :
    Refusing (filter.comparison property op value) := by
  refine (refusing_column property).bind fun column => ?_
  refine ((refusing_toDatum value).map _).bind fun null => ?_
  split <;> exact .ok _

theorem refusing_likeText (method : Method) (args : List Predicate) :
    Refusing (Filter.likeText method args) := by
  unfold Filter.likeText
  split
  · split <;> first | exact .ok _ | exact .error rfl
  · exact .error rfl

theorem refusing_membership (vs : List Value) (args : List Predicate) (negated : Bool) :
    Refusing (filter.membership vs args negated) := by
  unfold Filter.membership
  split
  · split
    · refine (refusing_column _).bind fun column => ?_
      split <;> exact .ok _
    · exact .error rfl
  · exact .error rfl

theorem refusing_call (method : Method) (target : Predicate) (args : List Predicate) :
    Refusing (filter.call method target args) := by
  have hlike (property : String) : Refusing (do
      let text ← Filter.likeText method args
      let column ← filter.column property
      return Condition.like column (Filter.pattern method (filter.dialect.escapeLike text))
        filter.dialect.escapeChar?) :=
    (refusing_likeText method args).bind fun _ => (refusing_column property).bind fun _ => .ok _
  unfold Filter.call
  split
  · exact refusing_membership _ _ _
  · exact hlike _
  · exact hlike _
  · exact hlike _
  · split
    · exact refusing_comparison _ _ _
    · exact .error rfl
  · exact .error rfl

/-- A predicate that does not compile is refused. -/
theorem refusing_compileNode (kind : String) (e : Predicate) :
    Refusing (filter.compileNode kind e) := by
  fun_induction Filter.compileNode filter kind e with
  | case1 kind operand ih => exact ih
  | case2 kind left right ihl ihr => exact ihl.bind fun _ => ihr.bind fun _ => .ok _
  | case3 kind left right ihl ihr => exact ihl.bind fun _ => ihr.bind fun _ => .ok _
  | case4 kind op left right property value hright hleft => exact refusing_comparison _ _ _
  | case5 kind op left right value property hright hleft => exact refusing_comparison _ _ _
  | case8 kind operand target args hoperand vs htarget => exact refusing_membership _ _ _
  | case11 kind method target args => exact refusing_call _ _ _
  | _ => exact .error rfl

theorem refusing_decode (token : String) : Refusing (Cursor.decode token) := by
  unfold Cursor.decode
  split
  · exact .error rfl
  · split
    · exact .error rfl
    · split
      · exact .error rfl
      · exact .ok _

end Predicates

/-! ### Selections -/

/-- Two steps in putting a selection together that differ in the values of a filter only. -/
inductive SelectionStep.Alike : SelectionStep → SelectionStep → Prop where
  | restrict (condition : Bool) {e e' : Predicate} (h : e.shape false = e'.shape false) :
    Alike (.restrict condition e) (.restrict condition e')
  | order (property : String) (direction : Direction) :
    Alike (.order property direction) (.order property direction)

namespace Selection

/-- A selection that differs from another one in the values of its conditions only, unless one of
them is refused over a filter. -/
inductive Alike (selection : Selection) : Selection → Prop where
  | intro (filters : List Condition) (fault : Option Error)
    (hfilters : selection.fault = none → fault = none →
      selection.filters.map Condition.blank = filters.map Condition.blank)
    (hrefuses : ∀ e, selection.fault = some e ∨ fault = some e → e.refuses = true) :
    Alike selection { selection with filters, fault }

/-- What becomes of a selection when a filter is added. -/
theorem whereIf_spec (selection : Selection) (condition : Bool) (e : Predicate) :
    ∃ filters fault, selection.whereIf condition e = { selection with filters, fault } ∧
      (∀ f, fault = some f → selection.fault = some f ∨ selection.filter.compile e = .error f) ∧
      (fault = none → selection.fault = none ∧
        (condition = false ∧ filters = selection.filters ∨ condition = true ∧
          ∃ c, selection.filter.compile e = .ok c ∧ filters = selection.filters ++ [c])) := by
  cases condition with
  | false => exact ⟨_, _, rfl, fun _ hf => .inl hf, fun hf => ⟨hf, .inl ⟨rfl, rfl⟩⟩⟩
  | true =>
      cases hfault : selection.fault with
      | some f =>
          have hsame : selection.whereIf true e = selection := by
            simp [whereIf, hfault]
          refine ⟨selection.filters, some f, ?_, fun g hg => .inl hg, fun hnone => by cases hnone⟩
          rw [hsame, ← hfault]
      | none =>
          cases hcompile : selection.filter.compile e with
          | ok c =>
              refine ⟨selection.filters ++ [c], none, ?_, (fun f hf => by cases hf), fun _ => ?_⟩
              · rw [whereIf_of_compile hfault hcompile, hfault]
              · exact ⟨rfl, .inr ⟨rfl, c, rfl, rfl⟩⟩
          | error f =>
              refine ⟨selection.filters, some f, ?_, fun g hg => .inr ?_, fun hnone => by cases hnone⟩
              · rw [filter] at hcompile
                rw [whereIf, hfault]
                simp [hcompile]
              · rw [Option.some.inj hg]

/-- A filter of one shape is added to both. -/
theorem Alike.apply {selection other : Selection} (h : selection.Alike other)
    {step step' : SelectionStep} (hstep : step.Alike step') :
    (step.apply selection).Alike (step'.apply other) := by
  obtain ⟨filters, fault, hfilters, hrefuses⟩ := h
  cases hstep with
  | order property direction => exact ⟨_, _, hfilters, hrefuses⟩
  | @restrict condition e e' hshape =>
      obtain ⟨filters₁, fault₁, hfirst, hfault₁, hnone₁⟩ := whereIf_spec selection condition e
      obtain ⟨filters₂, fault₂, hsecond, hfault₂, hnone₂⟩ :=
        whereIf_spec { selection with filters, fault } condition e'
      rw [SelectionStep.apply, SelectionStep.apply, hfirst, hsecond]
      refine ⟨filters₂, fault₂, fun h₁ h₂ => ?_, fun f hf => ?_⟩
      · obtain ⟨hselection, hadded₁⟩ := hnone₁ h₁
        obtain ⟨hother, hadded₂⟩ := hnone₂ h₂
        have hbefore := hfilters hselection hother
        rcases hadded₁ with ⟨hcondition, rfl⟩ | ⟨hcondition, c, hc, rfl⟩ <;>
          rcases hadded₂ with ⟨hcondition', rfl⟩ | ⟨hcondition', c', hc', rfl⟩
        · exact hbefore
        · cases hcondition.symm.trans hcondition'
        · cases hcondition.symm.trans hcondition'
        · rw [List.map_append, List.map_append, hbefore]
          exact congrArg (_ ++ [·]) (Filter.blank_eq_of_shape hshape hc hc')
      · rcases hf with hf | hf
        · rcases hfault₁ f hf with hold | hcompile
          · exact hrefuses f (.inl hold)
          · exact refusing_compileNode _ _ f hcompile
        · rcases hfault₂ f hf with hold | hcompile
          · exact hrefuses f (.inr hold)
          · exact refusing_compileNode _ _ f hcompile

theorem Alike.foldl_apply {selection other : Selection} (h : selection.Alike other)
    {steps steps' : List SelectionStep} (hsteps : List.Forall₂ SelectionStep.Alike steps steps') :
    (steps.foldl SelectionStep.apply selection).Alike
      (steps'.foldl SelectionStep.apply other) := by
  induction hsteps generalizing selection other with
  | nil => exact h
  | cons hstep hsteps ih => exact ih (h.apply hstep)

end Selection

/-! ### Statements -/

section Statements

/-- Rows with as many values each are inserted with one text. -/
theorem blank_insertOf (descriptor : Descriptor) (dialect : Dialect) {rows rows' : List (List Value)}
    (h : List.Forall₂ (fun vs ws => vs.length = ws.length) rows rows') :
    (Mapper.insertOf descriptor dialect rows).blank =
      (Mapper.insertOf descriptor dialect rows').blank := by
  have hrows : rows.map (fun row => row.map fun _ => blankValue) =
      rows'.map fun row => row.map fun _ => blankValue := by
    induction h with
    | nil => rfl
    | cons hlength h ih =>
        rw [List.map_cons, List.map_cons, ih, List.map_const', List.map_const', hlength]
  rw [Insert.blank, Insert.blank, Mapper.insertOf, Mapper.insertOf, hrows]

/-- Whether the rows of an insert have the right length depends on their lengths only. -/
theorem together_check {insert other : Insert} (h : insert.blank = other.blank) :
    Together (fun checked checked' : Insert => checked.blank = checked'.blank) insert.check
      other.check := by
  have hragged (insert : Insert) :
      (insert.rows.find? fun row => row.length != insert.columns.length).isSome =
        (insert.blank.rows.find? fun row => row.length != insert.blank.columns.length).isSome := by
    simp only [Insert.blank, List.find?_map, Option.isSome_map, Function.comp_def, List.length_map]
  have hsame := (hragged insert).trans ((congrArg (fun insert : Insert =>
    (insert.rows.find? fun row => row.length != insert.columns.length).isSome) h).trans
      (hragged other).symm)
  unfold Insert.check
  cases hfirst : insert.rows.find? fun row => row.length != insert.columns.length <;>
    cases hsecond : other.rows.find? fun row => row.length != other.columns.length <;>
    rw [hfirst, hsecond] at hsame
  · exact h
  · cases hsame
  · cases hsame
  · exact trivial

/-- The condition of a key depends on the number of its values only. -/
theorem blank_keyMatch? (dialect : Dialect) {keys : List Property} {vs ws : List Value}
    (hvs : vs.length = keys.length) (hws : ws.length = keys.length) :
    (Mapper.keyMatch? dialect keys vs).map Condition.blank =
      (Mapper.keyMatch? dialect keys ws).map Condition.blank := by
  rw [Mapper.keyMatch?, Mapper.keyMatch?, ← blank_joinAll?, ← blank_joinAll?,
    blank_matching (by simp [hvs]), blank_matching (by simp [hws])]

/-- Of several keys it depends on how many there are. -/
theorem blank_anyOf {conditions conditions' : List (Option Condition)}
    (h : List.Forall₂ (fun c c' => c.map Condition.blank = c'.map Condition.blank)
      conditions conditions') :
    (Condition.joinAll? .or (conditions.filterMap id)).toList.map Condition.blank =
      (Condition.joinAll? .or (conditions'.filterMap id)).toList.map Condition.blank := by
  have hlist : (conditions.filterMap id).map Condition.blank =
      (conditions'.filterMap id).map Condition.blank := by
    induction h with
    | nil => rfl
    | @cons c c' _ _ hc h ih =>
        cases c <;> cases c'
        · exact ih
        · cases hc
        · cases hc
        · exact List.cons_eq_cons.mpr ⟨Option.some.inj hc, ih⟩
  have hany : (Condition.joinAll? .or (conditions.filterMap id)).map Condition.blank =
      (Condition.joinAll? .or (conditions'.filterMap id)).map Condition.blank := by
    rw [← blank_joinAll?, hlist, blank_joinAll?]
  rw [← Option.toList_map, hany, Option.toList_map]

end Statements

namespace Action.InStep

variable {mapper : Mapper} {connection : String} {type : EntityType}

/-- A statement that is built anew. -/
theorem build (style : Style) {a b : List Token} (h : a.map Token.blank = b.map Token.blank) :
    InStep mapper (fun q r : Query => q.sql = r.sql)
      (liftM (Query.build style a) : Action Query) (liftM (Query.build style b) : Action Query) :=
  lift (together_build style h)

/-! ### Reading, updating and deleting -/

theorem get (id id' : Value) :
    InStep mapper (· = ·) (mapper.get connection type id) (mapper.get connection type id') := by
  refine Alike.describe (same_bind fun key hkey => ?_)
  refine (cachedQuery (Mapper.template_get hkey _) rfl rfl).bind fun q r hqr => ?_
  refine (query hqr).bind_eq fun rows => ?_
  cases rows with
  | nil => exact pure rfl
  | cons row rest => exact (lift_self _).bind_eq fun record => pure rfl

section Records

variable {record record' : Record} (hnames : record.map (·.1) = record'.map (·.1))
include hnames

theorem valuesOf (properties : List Property) :
    InStep mapper (fun vs ws => vs.length = properties.length ∧ ws.length = properties.length)
      (liftM (type.valuesOf record properties) : Action (List Value))
      (liftM (type.valuesOf record' properties) : Action (List Value)) :=
  lift (together_valuesOf hnames properties)

theorem updateColumns (only : Option (List String)) :
    InStep mapper (· = ·) (mapper.updateColumns connection type record only)
      (mapper.updateColumns connection type record' only) := by
  refine Alike.describe (same_bind fun keys hkeys => ite (throw_bind _ _ _ _) (ite (pure rfl) ?_))
  refine (valuesOf hnames _).bind fun assigned assigned' hassigned => ?_
  refine (valuesOf hnames _).bind fun identifying identifying' hidentifying => ?_
  have hvs := List.length_append.trans (congrArg₂ (· + ·) hassigned.1 hidentifying.1)
  have hws := List.length_append.trans (congrArg₂ (· + ·) hassigned.2 hidentifying.2)
  cases only with
  | none =>
      refine (cachedQuery (Mapper.template_update hkeys _) hvs hws).bind fun q r hqr => ?_
      exact (exec hqr).bind_eq fun affected => pure rfl
  | some names =>
      refine (build _ ((Template.update _ _ _ keys).blank_tokens _ _ hvs hws)).bind fun q r hqr => ?_
      exact (exec hqr).bind_eq fun affected => pure rfl

/-- Of a tracked entity the properties that changed are written, and these are the same. -/
theorem updateTracked (dirty : Dirty) :
    InStep mapper (fun _ _ => True)
      ((mapper.updateTracked connection).holding ⟨type, record, dirty⟩)
      ((mapper.updateTracked connection).holding ⟨type, record', dirty⟩) := by
  rw [Mapper.holding_updateTracked, Mapper.holding_updateTracked]
  cases dirty.only with
  | none => exact pure trivial
  | some only => exact (updateColumns hnames only).bind_eq fun updated => pure trivial

theorem delete :
    InStep mapper (· = ·) (mapper.delete connection type record)
      (mapper.delete connection type record') := by
  refine Alike.describe (same_bind fun keys hkeys => ?_)
  refine (valuesOf hnames keys).bind fun vs ws hlength => ?_
  refine (cachedQuery (Mapper.template_delete hkeys _) hlength.1 hlength.2).bind fun q r hqr => ?_
  exact (exec hqr).bind_eq fun affected => pure rfl

end Records

section Several

variable {records records' : List Record}
  (hnames : List.Forall₂ (fun record record' : Record => record.map (·.1) = record'.map (·.1))
    records records')
include hnames

theorem deleteMany :
    InStep mapper (· = ·) (mapper.deleteMany connection type records)
      (mapper.deleteMany connection type records') := by
  refine Alike.describe (same_bind fun keys hkeys => ?_)
  have hempty : records.isEmpty = records'.isEmpty := by cases hnames <;> rfl
  rw [hempty]
  refine ite (throw_bind _ _ _ _) (bind (mapM (S := fun c c' : Option Condition =>
    c.map Condition.blank = c'.map Condition.blank) (hnames.imp fun record record' hrecord => ?_))
    fun conditions conditions' hconditions => ?_)
  · exact (valuesOf hrecord keys).bind fun vs ws hlength =>
      pure (blank_keyMatch? _ hlength.1 hlength.2)
  · have hwhere := blank_whereTokens_congr (blank_anyOf hconditions)
    refine (build _ ?_).bind fun q r hqr => (exec hqr).bind_eq fun affected => pure rfl
    simp only [Delete.tokens, List.map_cons, hwhere]

theorem insertMany :
    InStep mapper (· = ·) (mapper.insertMany connection type records)
      (mapper.insertMany connection type records') := by
  refine Alike.describe ?_
  have hall := hnames
  cases hnames with
  | nil => exact pure rfl
  | cons hfirst hrest =>
      refine whileOpen (bind (mapM (hall.imp fun record record' hrecord => valuesOf hrecord _))
        fun rows rows' hrows => ?_)
      have hblank := blank_insertOf (Descriptor.build mapper.tableRule type)
        (mapper.dialectFor connection) (hrows.imp fun _ _ h => h.1.trans h.2.symm)
      refine (lift (together_check hblank)).bind fun checked checked' hchecked => ?_
      refine (build _ (Insert.blank_tokens_congr hchecked .nothing)).bind fun q r hqr => ?_
      exact (exec hqr).bind_eq fun affected => pure rfl

end Several

/-! ### Inserting -/

theorem insertReturning (dialect : Dialect) {insert other : Insert}
    (h : insert.blank = other.blank) (keys : List Property) :
    InStep mapper (· = ·) (mapper.insertReturning dialect insert keys)
      (mapper.insertReturning dialect other keys) := by
  refine (lift (together_check h)).bind fun checked checked' hchecked => ?_
  have htokens := Insert.blank_tokens_congr hchecked
  have htable : checked.table = checked'.table := (congrArg Insert.table hchecked :)
  dsimp only
  rw [htable]
  split
  all_goals refine (build _ (htokens _)).bind fun q r hqr => ?_
  · exact (query hqr).bind_eq fun rows => pure rfl
  · exact (exec hqr).bind_eq fun affected => pure rfl
  · exact (query hqr).bind_eq fun rows => lift_self _
  · exact (query (congrArg (· ++ _) hqr)).bind_eq fun rows => lift_self _
  · exact (exec hqr).bind_eq fun _ => (query rfl).bind_eq fun rows => lift_self _

theorem insert {record record' : Record} (hnames : record.map (·.1) = record'.map (·.1)) :
    InStep mapper (· = ·) (mapper.insert connection type record)
      (mapper.insert connection type record') := by
  refine Alike.describe (whileOpen ((valuesOf hnames _).bind fun vs ws hlength => ?_))
  exact insertReturning _ (blank_insertOf _ _ (.cons (hlength.1.trans hlength.2.symm) .nil)) _

end Action.InStep

/-! ### Selecting -/

/-- Two selections that differ in the values of their conditions only. -/
def Selection.Matches (selection other : Selection) : Prop :=
  ∃ filters, other = { selection with filters } ∧
    selection.filters.map Condition.blank = filters.map Condition.blank

/-- The values of two cursors are such values. -/
theorem Selection.Matches.after {selection other : Selection} (h : selection.Matches other)
    (sort : Property) (direction : Direction) {cursor cursor' : Option String}
    (hcursor : cursor.isSome = cursor'.isSome) :
    Together Selection.Matches (selection.after sort direction cursor)
      (other.after sort direction cursor') := by
  obtain ⟨filters, rfl, hfilters⟩ := h
  cases cursor <;> cases cursor'
  · exact ⟨filters, rfl, hfilters⟩
  · cases hcursor
  · cases hcursor
  · next token token' =>
      have hdecoded : Together (fun _ _ => True) (Cursor.decode token) (Cursor.decode token') :=
        (refusing_decode token).together (refusing_decode token') fun _ _ _ _ => trivial
      refine hdecoded.bind fun d d' _ => ⟨_, rfl, ?_⟩
      simp only [List.map_append, hfilters, List.map_cons, Condition.blank]

namespace Action

variable {mapper : Mapper} {selection other : Selection}

namespace InStep

/-- Two selections that are checked have no faults. -/
theorem check (h : selection.Alike other) :
    InStep mapper (fun _ _ => selection.Matches other)
      (liftM selection.check : Action Unit) (liftM other.check : Action Unit) := by
  obtain ⟨filters, fault, hfilters, hrefuses⟩ := h
  refine lift ?_
  unfold Selection.check
  cases hfirst : selection.fault with
  | none =>
      cases fault with
      | none => exact ⟨filters, by rw [hfirst], hfilters hfirst rfl⟩
      | some e => exact hrefuses e (.inr rfl)
  | some e =>
      cases fault with
      | none => exact hrefuses e (.inl hfirst)
      | some e' => exact trivial

section Matching

variable (h : selection.Matches other)
include h

/-- Two statements of a selection with one text are answered with the same rows. -/
theorem rows {a b : List Token} (htokens : a.map Token.blank = b.map Token.blank) :
    InStep mapper (· = ·) (selection.rows a) (other.rows b) := by
  obtain ⟨filters, rfl, -⟩ := h
  exact (build _ htokens).bind fun _ _ hqr => query hqr

theorem entities (found : List Row) :
    InStep mapper (· = ·) (liftM (selection.entities found) : Action (List Record))
      (liftM (other.entities found) : Action (List Record)) := by
  obtain ⟨filters, rfl, -⟩ := h
  exact lift_self _

theorem countRows : InStep mapper (· = ·) selection.countRows other.countRows := by
  have hrows : InStep mapper (· = ·) (selection.rows (selection.select .count []).tokens)
      (other.rows (other.select .count []).tokens) := by
    refine rows h ?_
    obtain ⟨filters, rfl, hfilters⟩ := h
    exact blank_select hfilters _ _ _
  refine hrows.bind_eq fun found => ?_
  cases found.head?.bind Row.first? with
  | none => exact pure rfl
  | some d => exact (lift_self _).bind_eq fun count => pure rfl

theorem pageRows (property : Property) (direction : Direction) (window window' : Window) :
    InStep mapper (· = ·) (selection.pageRows property direction window)
      (other.pageRows property direction window') := by
  refine rows h ?_
  obtain ⟨filters, rfl, hfilters⟩ := h
  exact blank_page hfilters _ _ _ _ _ _

/-- The order is the same on both sides. -/
theorem sort (kind : String) :
    InStep mapper (· = ·) (liftM (selection.sort kind) : Action (Property × Direction))
      (liftM (other.sort kind) : Action (Property × Direction)) := by
  obtain ⟨filters, rfl, -⟩ := h
  exact lift_self _

end Matching

theorem count (h : selection.Alike other) : InStep mapper (· = ·) selection.count other.count :=
  (check h).bind fun _ _ hmatch => countRows hmatch

theorem fetch (h : selection.Alike other) : InStep mapper (· = ·) selection.fetch other.fetch := by
  refine (check h).bind fun _ _ hmatch => ?_
  have hordered (order : List (Ident × Direction)) :
      InStep mapper (· = ·) (selection.rows (selection.select .star order).tokens >>= fun found =>
          (liftM (selection.entities found) : Action (List Record)))
        (other.rows (other.select .star order).tokens >>= fun found =>
          (liftM (other.entities found) : Action (List Record))) := by
    refine (rows hmatch ?_).bind_eq fun found => entities hmatch found
    obtain ⟨filters, rfl, hfilters⟩ := hmatch
    exact blank_select hfilters _ _ _
  obtain ⟨filters, rfl, -⟩ := hmatch
  dsimp only
  cases selection.order with
  | none => exact hordered []
  | some order => exact (lift_self _).bind_eq fun property => hordered _

theorem fetchPage (h : selection.Alike other) (page perPage page' perPage' : UInt64) :
    InStep mapper (fun _ _ => True) (selection.fetchPage page perPage)
      (other.fetchPage page' perPage') := by
  refine (check h).bind fun _ _ hmatch => (sort hmatch _).bind_eq fun order => ?_
  refine (countRows hmatch).bind_eq fun total => ?_
  refine (pageRows hmatch _ _ _ _).bind_eq fun found => ?_
  exact (entities hmatch found).bind_eq fun items => pure trivial

end InStep

/-- What is made of the rows comes after the last statement. -/
theorem SameText.fetchCursor (h : selection.Alike other) {cursor cursor' : Option String}
    (hcursor : cursor.isSome = cursor'.isSome) (pageSize pageSize' : UInt64) :
    SameText mapper (selection.fetchCursor cursor pageSize)
      (other.fetchCursor cursor' pageSize') := by
  rw [Selection.fetchCursor_eq, Selection.fetchCursor_eq]
  refine SameText.bind (InStep.check h) fun _ _ hmatch => ?_
  refine SameText.bind (InStep.sort hmatch _) fun order order' horder => ?_
  subst horder
  refine SameText.bind (InStep.lift (hmatch.after _ _ hcursor)) fun later later' hlater => ?_
  exact SameText.bind (InStep.pageRows hlater _ _ _ _) fun _ _ _ => SameText.lift _ _

end Action

/-! ### Operations -/

/-- Two ends of a selection that differ in numbers and in the content of a cursor only. -/
inductive SelectionEnd.Alike : SelectionEnd → SelectionEnd → Prop where
  | entities : Alike .entities .entities
  | count : Alike .count .count
  | page (number perPage number' perPage' : UInt64) :
    Alike (.page number perPage) (.page number' perPage')
  | first (pageSize pageSize' : UInt64) : Alike (.cursor none pageSize) (.cursor none pageSize')
  | next (token token' : String) (pageSize pageSize' : UInt64) :
    Alike (.cursor (some token) pageSize) (.cursor (some token') pageSize')

/-- Whatever is made of the rows of two selections. -/
theorem SelectionEnd.Alike.sameText {ending ending' : SelectionEnd} (h : ending.Alike ending')
    {mapper : Mapper} {selection other : Selection} (hselected : selection.Alike other) :
    Action.SameText mapper (ending.action selection) (ending'.action other) := by
  cases h with
  | entities => exact (Action.InStep.fetch hselected).sameText
  | count => exact (Action.InStep.count hselected).sameText
  | page number perPage number' perPage' =>
      exact (Action.InStep.fetchPage hselected number perPage number' perPage').sameText
  | first pageSize pageSize' =>
      exact Action.SameText.fetchCursor hselected rfl pageSize pageSize'
  | next token token' pageSize pageSize' =>
      have hcursor : (some token).isSome = (some token').isSome := rfl
      exact Action.SameText.fetchCursor hselected hcursor pageSize pageSize'

namespace Operation

/-- Two requests that differ in their values only: the contents of the properties of entities, the
key that is looked for, the constants of predicates, the content of a cursor, and the numbers of a
page.  What changed of a tracked entity is the same in both. -/
inductive Alike : Operation → Operation → Prop where
  | get (connection : String) (type : EntityType) (id id' : Value) :
    Alike (.get connection type id) (.get connection type id')
  | getAll (connection : String) (type : EntityType) :
    Alike (.getAll connection type) (.getAll connection type)
  | insert (connection : String) (type : EntityType) {record record' : Record}
    (h : record.map (·.1) = record'.map (·.1)) :
    Alike (.insert connection type record) (.insert connection type record')
  | insertMany (connection : String) (type : EntityType) {records records' : List Record}
    (h : List.Forall₂ (fun record record' : Record => record.map (·.1) = record'.map (·.1))
      records records') :
    Alike (.insertMany connection type records) (.insertMany connection type records')
  | update (connection : String) (type : EntityType) {record record' : Record}
    (h : record.map (·.1) = record'.map (·.1)) :
    Alike (.update connection type record) (.update connection type record')
  | updateTracked (connection : String) (type : EntityType) (dirty : Dirty)
    {record record' : Record} (h : record.map (·.1) = record'.map (·.1)) :
    Alike (.updateTracked connection ⟨type, record, dirty⟩)
      (.updateTracked connection ⟨type, record', dirty⟩)
  | delete (connection : String) (type : EntityType) {record record' : Record}
    (h : record.map (·.1) = record'.map (·.1)) :
    Alike (.delete connection type record) (.delete connection type record')
  | deleteMany (connection : String) (type : EntityType) {records records' : List Record}
    (h : List.Forall₂ (fun record record' : Record => record.map (·.1) = record'.map (·.1))
      records records') :
    Alike (.deleteMany connection type records) (.deleteMany connection type records')
  | deleteAll (connection : String) (type : EntityType) :
    Alike (.deleteAll connection type) (.deleteAll connection type)
  | select (connection : String) (type : EntityType) {steps steps' : List SelectionStep}
    {ending ending' : SelectionEnd} (hsteps : List.Forall₂ SelectionStep.Alike steps steps')
    (hending : ending.Alike ending') :
    Alike (.select connection type steps ending) (.select connection type steps' ending')

/-- Two such requests go side by side, whatever the caches hold. -/
theorem Alike.sameText {operation other : Operation} (h : operation.Alike other) (mapper : Mapper) :
    Action.SameText mapper (operation.action mapper) (other.action mapper) := by
  cases h with
  | get connection type id id' => exact (Action.InStep.get id id').sameText
  | getAll connection type =>
      have htransparent := (Operation.getAll connection type).transparent mapper
      exact (Action.InStep.of_transparent htransparent).sameText
  | insert connection type h => exact (Action.InStep.insert h).sameText
  | insertMany connection type h => exact (Action.InStep.insertMany h).sameText
  | update connection type h => exact (Action.InStep.updateColumns h none).sameText
  | updateTracked connection type dirty h => exact (Action.InStep.updateTracked h dirty).sameText
  | delete connection type h => exact (Action.InStep.delete h).sameText
  | deleteMany connection type h => exact (Action.InStep.deleteMany h).sameText
  | deleteAll connection type =>
      have htransparent := (Operation.deleteAll connection type).transparent mapper
      exact (Action.InStep.of_transparent htransparent).sameText
  | select connection type hsteps hending =>
      rw [action_select, action_select]
      refine Action.Alike.describe ?_
      have hfresh : Selection.Alike
          ⟨mapper, type, .build mapper.tableRule type, mapper.dialectFor connection, [], none, none⟩
          ⟨mapper, type, .build mapper.tableRule type, mapper.dialectFor connection, [], none, none⟩ :=
        ⟨[], none, fun _ _ => rfl, fun e he => by rcases he with he | he <;> cases he⟩
      exact hending.sameText (hfresh.foldl_apply hsteps)

end Operation

/-! ### On two connections -/

/-- **No value reaches a text.**  Take two requests that differ in their values only
(`Operation.Alike`), on mappers of one configuration that keep whatever they may keep, and two
connections that reply the same to both requests as far as both are replied to (`Dialogue.replies`).
If neither request is refused (`Unrefused`), then both make the same calls in the same order up to
the data of their statements (`Call.blank`): the texts are the same. -/
theorem texts_same {σ τ : Type} {mapper : Mapper} {operation other : Operation}
    (h : operation.Alike other) {cache cache' : Cache} (hcache : cache.Valid mapper)
    (hcache' : cache'.Valid mapper) (answer : (c : Call) → σ → c.Answer × σ)
    (answer' : (c : Call) → τ → c.Answer × τ) (s : σ) (t : τ)
    (hreplies : ∀ pair ∈ (((operation.action mapper).dialogue cache).replies answer s).zip
      (((other.action mapper).dialogue cache').replies answer' t), pair.1 = pair.2)
    (haccepted : Unrefused
      (((operation.action mapper).dialogue cache).transcript answer s).2.1.1)
    (haccepted' : Unrefused (((other.action mapper).dialogue cache').transcript answer' t).2.1.1) :
    (((operation.action mapper).dialogue cache).transcript answer s).1.map Call.blank =
      (((other.action mapper).dialogue cache').transcript answer' t).1.map Call.blank := by
  refine (h.sameText mapper cache cache' hcache hcache').transcript hreplies ?_ ?_
  · rintro ⟨e, he, hrefuses⟩
    rw [haccepted e he] at hrefuses
    cases hrefuses
  · rintro ⟨e, he, hrefuses⟩
    rw [haccepted' e he] at hrefuses
    cases hrefuses

/-! ### A page of notes -/

namespace Sample

/-- A page of the notes with a text or one of two keys. -/
def pageOf (body : String) (first second : Int64) (number : UInt64) : Operation :=
  .select "SqlConnection" note
    [.restrict true (.binary .or (.compare .eq (.column "body") (.string (some body)))
      (.isIn (.column "id") [.bigInt (some first), .bigInt (some second)]))]
    (.page number 20)

/-- What an operation does on a connection that knows no notes. -/
def onEmpty (operation : Operation) : List Call × (Except Error operation.Result × Cache) × Recording :=
  ((operation.action .standard).dialogue .empty).transcript Recording.answer
    (Recording.start "SqlConnection" true)

end Sample

/-- A text that closes a literal and goes on as a statement is sent like any other one, in the count
and in the page. -/
theorem texts_same_page :
    (Sample.onEmpty (Sample.pageOf "x'; DROP TABLE Notes; --" 4 7 1)).1.length = 2 ∧
      (Sample.onEmpty (Sample.pageOf "x'; DROP TABLE Notes; --" 4 7 1)).1 ≠
        (Sample.onEmpty (Sample.pageOf "plain" 1 1 5)).1 ∧
      (Sample.onEmpty (Sample.pageOf "x'; DROP TABLE Notes; --" 4 7 1)).1.map Call.blank =
        (Sample.onEmpty (Sample.pageOf "plain" 1 1 5)).1.map Call.blank := by
  refine ⟨by decide +kernel, by decide +kernel, ?_⟩
  have halike : (Sample.pageOf "x'; DROP TABLE Notes; --" 4 7 1).Alike
      (Sample.pageOf "plain" 1 1 5) :=
    .select _ _ (.cons (.restrict true rfl) .nil) (.page _ _ _ _)
  have hreplies (body : String) (first second : Int64) (number : UInt64) :
      (((Sample.pageOf body first second number).action .standard).dialogue .empty).replies
        Recording.answer (Recording.start "SqlConnection" true) =
          [.rows (.ok []), .rows (.ok [])] := rfl
  have haccepted (body : String) (first second : Int64) (number : UInt64) :
      Unrefused (Sample.onEmpty (Sample.pageOf body first second number)).2.1.1 :=
    fun e he => by cases he
  refine texts_same halike Cache.valid_empty Cache.valid_empty _ _ _ _ ?_ (haccepted _ _ _ _)
    (haccepted _ _ _ _)
  rw [hreplies, hreplies]
  simp

end RowMapper
