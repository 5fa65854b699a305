import RowMapper.Proofs.Filter.Meaning
import RowMapper.Proofs.Mapper.Course

/-!
# The default order

Pages need an order.  A selection that names none is ordered by a property that its type names.

* `SelectionStep.orders`, `SelectionEnd.ordered` — which steps name an order, and which ends need
  one;
* `Selection.retyped` — a selection with another type and another default order;
* `Selection.action_retyped` — what such a selection does, if rows are read in the same way;
* `Operation.dialogue_page_of_write` — a page in the default order is the page in the order of that
  property, if it is stored.

### Where the default order is looked at

Filters and orders that are named go through the stored properties.  The default order does not: it
comes with the descriptor, from all properties of the type, and only pages look at it.  So a
selection is moved to another type with `Selection.retyped`, which changes the type and the default
order and nothing else, and its two fields are followed through the four ends.
-/

namespace RowMapper

open Sql

/-- The property by which entities are ordered if nothing else is asked for. -/
def EntityType.defaultProperty? (type : EntityType) : Option Property :=
  type.defaultSort.bind fun sort => type.properties.find? (·.name == sort)

theorem EntityType.find?_of_defaultSort {type : EntityType} {sort : String}
    (h : type.defaultSort = some sort) :
    type.properties.find? (·.name == sort) = type.defaultProperty? := by
  rw [defaultProperty?, h]
  rfl

/-- The descriptor with another default order. -/
def Descriptor.withSort (descriptor : Descriptor) (sort : Option Property) : Descriptor :=
  { descriptor with defaultSort := sort }

namespace Descriptor

variable (descriptor : Descriptor) (sort : Option Property) (operation : String)

@[simp] theorem entity_withSort : (descriptor.withSort sort).entity = descriptor.entity := rfl

@[simp] theorem table_withSort : (descriptor.withSort sort).table = descriptor.table := rfl

@[simp] theorem updatable_withSort :
    (descriptor.withSort sort).updatable = descriptor.updatable := rfl

@[simp] theorem requireKeys_withSort :
    (descriptor.withSort sort).requireKeys operation = descriptor.requireKeys operation := rfl

end Descriptor

/-! ### Selections -/

/-- A predicate is compiled by the columns of properties and the dialect, and by nothing else. -/
theorem Filter.compileNode_congr {filter other : Filter} (hcolumn : other.column = filter.column)
    (hdialect : other.dialect = filter.dialect) (kind : String) (e : Predicate) :
    other.compileNode kind e = filter.compileNode kind e := by
  have hcomparison : other.comparison = filter.comparison := by
    funext property op value
    rw [comparison, hcolumn, comparison]
  have hmembership : other.membership = filter.membership := by
    funext vs args negated
    simp only [membership, hcolumn]
  have hcall : other.call = filter.call := by
    funext method target args
    simp only [Filter.call, hcolumn, hcomparison, hmembership, hdialect]
  fun_induction compileNode filter kind e with
  | case1 kind operand ih => rw [compileNode, ih]
  | case2 kind left right ihl ihr => rw [compileNode, ihl, ihr]
  | case3 kind left right ihl ihr => rw [compileNode, ihl, ihr]
  | _ => simp only [compileNode, *]

/-- Whether a step names an order. -/
def SelectionStep.orders : SelectionStep → Bool
  | order _ _ => true
  | restrict _ _ => false

/-- Whether the end of a selection cannot do without an order. -/
def SelectionEnd.ordered : SelectionEnd → Bool
  | page _ _ | cursor _ _ => true
  | entities | count => false

namespace Selection

/-- The selection with another type, and a descriptor with another default order. -/
def retyped (selection : Selection) (type : EntityType) (sort : Option Property) : Selection :=
  { selection with
    type
    descriptor := selection.descriptor.withSort sort }

variable (selection : Selection) (type : EntityType) (sort : Option Property)

theorem whereIf_retyped (condition : Bool) (predicate : Predicate) :
    (selection.retyped type sort).whereIf condition predicate =
      (selection.whereIf condition predicate).retyped type sort := by
  have hcompile : Filter.compile ⟨(selection.retyped type sort).descriptor,
      (selection.retyped type sort).dialect⟩ predicate =
        Filter.compile ⟨selection.descriptor, selection.dialect⟩ predicate := by
    exact Filter.compileNode_congr (by rfl) (by rfl) _ _
  by_cases hskip : (!condition || selection.fault.isSome) = true
  · rw [whereIf, if_pos (by exact hskip), whereIf, if_pos hskip]
  · rw [whereIf, if_neg (by exact hskip), whereIf, if_neg hskip, hcompile]
    cases Filter.compile ⟨selection.descriptor, selection.dialect⟩ predicate <;> rfl

/-- No step looks at the type or at the default order. -/
theorem foldl_apply_retyped (steps : List SelectionStep) :
    steps.foldl SelectionStep.apply (selection.retyped type sort) =
      (steps.foldl SelectionStep.apply selection).retyped type sort := by
  induction steps generalizing selection with
  | nil => rfl
  | cons step steps ih =>
      rw [List.foldl_cons, List.foldl_cons, ← ih]
      congr 1
      cases step with
      | restrict condition predicate => exact selection.whereIf_retyped type sort condition predicate
      | order property direction => rfl

/-- A selection has an order as soon as a step names one. -/
theorem isSome_order_foldl_apply (steps : List SelectionStep) :
    (steps.foldl SelectionStep.apply selection).order.isSome =
      (selection.order.isSome || steps.any SelectionStep.orders) := by
  induction steps generalizing selection with
  | nil => simp
  | cons step steps ih =>
      rw [List.foldl_cons, ih, List.any_cons, ← Bool.or_assoc]
      congr 1
      cases step with
      | order property direction => simp [SelectionStep.apply, orderBy, SelectionStep.orders]
      | restrict condition predicate =>
          obtain ⟨_, _, hstep⟩ := selection.exists_whereIf condition predicate
          rw [SelectionStep.apply, hstep, SelectionStep.orders, Bool.or_false]

/-- The property that orders the rows is the same if an order was named, or the default order is the
same. -/
theorem sort_retyped (h : selection.order = none → sort = selection.descriptor.defaultSort) :
    (selection.retyped type sort).sort = selection.sort := by
  funext kind
  cases horder : selection.order with
  | some order => simp only [Selection.sort, retyped, horder]; rfl
  | none => simp only [Selection.sort, retyped, horder, h horder]; rfl

section Ends

variable {selection type sort} (order : Option (String × Direction))

/-- Rows are made entities in the same way. -/
theorem entities_retyped (hread : type.fromRow = selection.type.fromRow) :
    entities { selection.retyped type sort with order } = selection.entities := by
  funext rows
  exact congrArg (fun read => rows.mapM (read selection.mapper.own)) hread

theorem cursorPage_retyped (hread : type.fromRow = selection.type.fromRow) (property : Property)
    (pageSize : UInt64) (rows : List Row) :
    cursorPage { selection.retyped type sort with order } property pageSize rows =
      selection.cursorPage property pageSize rows := by
  rw [cursorPage, entities_retyped order hread, cursorPage]

theorem after_retyped (property : Property) (direction : Direction) (cursor : Option String) :
    after { selection.retyped type sort with order } property direction cursor =
      (fun later => { later.retyped type sort with order }) <$>
        selection.after property direction cursor := by
  cases cursor with
  | none => rfl
  | some token =>
      simp only [after]
      cases Cursor.decode token <;> rfl

/-- What is made of the rows is the same if they are read in the same way and ordered by the same
property, or if no order is needed and the same one is named. -/
theorem action_retyped (hread : type.fromRow = selection.type.fromRow) (ending : SelectionEnd)
    (hsort : ending.ordered = true →
      Selection.sort { selection.retyped type sort with order } = selection.sort)
    (horder : ending.ordered = false → order = selection.order) :
    ending.action { selection.retyped type sort with order } = ending.action selection := by
  cases ending with
  | entities =>
      obtain rfl := horder rfl
      show fetch { selection.retyped type sort with order := selection.order } = selection.fetch
      rw [fetch, entities_retyped _ hread]
      rfl
  | count => rfl
  | page number perPage =>
      show fetchPage { selection.retyped type sort with order } number perPage =
        selection.fetchPage number perPage
      rw [fetchPage, entities_retyped order hread, hsort rfl]
      rfl
  | cursor token pageSize =>
      show fetchCursor { selection.retyped type sort with order } token pageSize =
        selection.fetchCursor token pageSize
      rw [fetchCursor_eq, fetchCursor_eq, hsort rfl]
      refine bind_congr fun _ => bind_congr fun sorted => ?_
      obtain ⟨property, direction⟩ := sorted
      dsimp only
      rw [after_retyped]
      cases hafter : selection.after property direction token with
      | error e => rfl
      | ok later =>
          have hlater : type.fromRow = later.type.fromRow := by
            obtain ⟨filters, rfl⟩ := exists_filters_of_after hafter
            exact hread
          show (pageRows { later.retyped type sort with order } property direction _ >>= fun rows =>
            liftM (cursorPage { later.retyped type sort with order } property
              (max pageSize 1) rows)) = _
          simp only [cursorPage_retyped order hlater]
          rfl

/-- Another type and another default order make no difference, if rows are read in the same way and
the default order is the same where it is needed. -/
theorem action_retyped_self (hread : type.fromRow = selection.type.fromRow) (ending : SelectionEnd)
    (hsort : ending.ordered = true → selection.order = none →
      sort = selection.descriptor.defaultSort) :
    ending.action (selection.retyped type sort) = ending.action selection :=
  action_retyped selection.order hread ending
    (fun hordered => selection.sort_retyped type sort (hsort hordered)) fun _ => rfl

end Ends

end Selection

/-! ### The default order, named -/

namespace Descriptor

variable {type : EntityType} {sort : String} {p : Property}

/-- A stored property is found by the name of the default order. -/
theorem property_of_default (rule : TableRule)
    (hp : type.properties.find? (·.name == sort) = some p) (hwrite : p.write = true) :
    (build rule type).property sort = .ok p := by
  obtain ⟨hname, before, after, hproperties, hbefore⟩ := List.find?_eq_some_iff_append.mp hp
  have hfind : (build rule type).properties.find? (·.name == sort) = some p := by
    show (type.properties.filter (·.write)).find? (·.name == sort) = some p
    rw [List.find?_filter, List.find?_eq_some_iff_append]
    refine ⟨by simp [hwrite, hname], before, after, hproperties, fun a ha => ?_⟩
    have hother : ¬ a.name = sort := by simpa using hbefore a ha
    simp [hother]
  rw [property, hfind]

end Descriptor

namespace Selection

/-- A page is the same if its default order is named. -/
theorem action_orderBy {selection : Selection} {property : String} {p : Property}
    (horder : selection.order = none) (hdefault : selection.descriptor.defaultSort = some p)
    (hproperty : selection.descriptor.property property = .ok p) {ending : SelectionEnd}
    (hordered : ending.ordered = true) :
    ending.action (selection.orderBy property .ascending) = ending.action selection := by
  have hsort : (selection.orderBy property .ascending).sort = selection.sort := by
    funext kind
    simp only [Selection.sort, orderBy, horder, hdefault, hproperty]
    rfl
  show ending.action { selection.retyped selection.type selection.descriptor.defaultSort with
    order := some (property, .ascending) } = _
  exact action_retyped _ rfl ending (fun _ => hsort) fun h => by rw [h] at hordered; cases hordered

end Selection

namespace Operation

variable {mapper : Mapper} {type : EntityType} {sort : String} {p : Property}

/-- What a selection of a type says and answers, on a valid cache. -/
theorem dialogue_select {cache : Cache} (hcache : cache.Valid mapper) (connection : String)
    (type : EntityType) : ∃ cache' : Cache, ∀ steps ending,
      ((select connection type steps ending).action mapper).dialogue cache =
        (ending.action (steps.foldl SelectionStep.apply ⟨mapper, type,
          Descriptor.build mapper.tableRule type, mapper.dialectFor connection, [], none,
          none⟩)).dialogue cache' := by
  obtain ⟨cache', -, hdescribe⟩ := Action.Transparent.dialogue_describe hcache type
  refine ⟨cache', fun steps ending => ?_⟩
  have hbind := Action.dialogue_bind (mapper.describe type) (fun descriptor =>
    ending.action (steps.foldl SelectionStep.apply
      ⟨mapper, type, descriptor, mapper.dialectFor connection, [], none, none⟩)) cache
  rw [hdescribe] at hbind
  rw [action_select]
  exact hbind

/-- A page of a type that is ordered by a stored property is the page in the order of that
property. -/
theorem dialogue_page_of_write (hsort : type.defaultSort = some sort)
    (hp : type.defaultProperty? = some p) (hwrite : p.write = true) (connection : String)
    {steps : List SelectionStep} (hsteps : steps.any SelectionStep.orders = false)
    {ending : SelectionEnd} (hordered : ending.ordered = true) {cache : Cache}
    (hcache : cache.Valid mapper) :
    ((select connection type steps ending).action mapper).dialogue cache =
      ((select connection type (steps ++ [.order sort .ascending]) ending).action
        mapper).dialogue cache := by
  obtain ⟨cache', hselect⟩ := dialogue_select hcache connection type
  let start : Selection := ⟨mapper, type, Descriptor.build mapper.tableRule type,
    mapper.dialectFor connection, [], none, none⟩
  have horder := start.isSome_order_foldl_apply steps
  obtain ⟨filters, order, fault, hfold⟩ := start.exists_foldl_apply steps
  have hfind : type.properties.find? (·.name == sort) = some p :=
    (EntityType.find?_of_defaultSort hsort).trans hp
  rw [hselect, hselect, List.foldl_append]
  show (ending.action (steps.foldl SelectionStep.apply start)).dialogue cache' =
    (ending.action ((steps.foldl SelectionStep.apply start).orderBy sort .ascending)).dialogue cache'
  rw [hfold] at horder ⊢
  rw [Selection.action_orderBy _ hp (Descriptor.property_of_default _ hfind hwrite) hordered]
  simpa [start, hsteps] using horder

end Operation

end RowMapper
