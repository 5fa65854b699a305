import RowMapper.Proofs.Filter.Where
import RowMapper.Proofs.Mapper.DefaultOrder
import RowMapper.Recording

/-!
# How a selection is put together

Filters and orders are added step by step, and the steps may be wrong or without effect.  What comes
of a selection depends on few of them.

* `SelectionStep.predicates`, `SelectionStep.lastOrder?` — the filters that are added, and the order
  that is named last;
* `SelectionStep.kept` — the steps that matter; `Selection.foldl_apply_kept` says that they do what
  all steps do;
* `Selection.foldl_apply_eq` — what steps do: they add their filters and name their last order;
* `Selection.fault_whereAll_append` — the first filter that does not compile is the fault;
* `SelectionEnd.action_of_fault` — a selection with a fault has no other end;
* `Operation.steps_kept` — all of it, for a selection of a mapper.

### Steps that pass each other

A filter looks at the fault and at the filters, and an order at neither of them.  So filters and
orders pass each other, and the orders can all stand behind the filters, where each of them undoes
the one in front of it.  A fault stops the filters behind it and nothing else.
-/

namespace RowMapper

open Sql

/-! ### The steps that matter -/

namespace SelectionStep

/-- The filter that a step adds. -/
def predicate? : SelectionStep → Option Predicate
  | restrict true predicate => some predicate
  | restrict false _ | order _ _ => none

/-- The order that a step names. -/
def order? : SelectionStep → Option (String × Direction)
  | restrict _ _ => none
  | order property direction => some (property, direction)

/-- The filters that are added, one after the other. -/
def predicates (steps : List SelectionStep) : List Predicate := steps.filterMap predicate?

/-- The order that is named last. -/
def lastOrder? (steps : List SelectionStep) : Option (String × Direction) :=
  (steps.filterMap order?).getLast?

/-- The steps that matter: the filters that are added, and behind them the last order. -/
def kept (steps : List SelectionStep) : List SelectionStep :=
  (predicates steps).map (restrict true) ++
    (lastOrder? steps).toList.map fun (property, direction) => order property direction

section Cons

variable (steps : List SelectionStep) (predicate : Predicate) (property : String)
  (direction : Direction)

@[simp] theorem predicates_restrict_true :
    predicates (restrict true predicate :: steps) = predicate :: predicates steps := rfl

@[simp] theorem predicates_restrict_false :
    predicates (restrict false predicate :: steps) = predicates steps := rfl

@[simp] theorem predicates_order :
    predicates (order property direction :: steps) = predicates steps := rfl

@[simp] theorem lastOrder?_restrict (condition : Bool) :
    lastOrder? (restrict condition predicate :: steps) = lastOrder? steps := rfl

@[simp] theorem lastOrder?_order :
    lastOrder? (order property direction :: steps) =
      (lastOrder? steps).or (some (property, direction)) := by
  show ((property, direction) :: steps.filterMap order?).getLast? = _
  rw [List.getLast?_cons, lastOrder?]
  cases (steps.filterMap order?).getLast? <;> rfl

end Cons

/-- The steps that matter add the same filters and name the same order last. -/
theorem predicates_kept (steps : List SelectionStep) :
    predicates (kept steps) = predicates steps := by
  have hfilters (es : List Predicate) : (es.map (restrict true)).filterMap predicate? = es := by
    induction es with
    | nil => rfl
    | cons e es ih => exact congrArg (e :: ·) ih
  rw [kept, predicates, List.filterMap_append, hfilters]
  cases lastOrder? steps <;> simp [predicate?]

theorem lastOrder?_kept (steps : List SelectionStep) :
    lastOrder? (kept steps) = lastOrder? steps := by
  have hfilters (es : List Predicate) : (es.map (restrict true)).filterMap order? = [] := by
    induction es with
    | nil => rfl
    | cons e es ih => exact ih
  rw [kept, lastOrder?, List.filterMap_append, hfilters]
  cases lastOrder? steps <;> rfl

end SelectionStep

namespace Selection

/-- The selection with another order. -/
def withOrder (selection : Selection) (order : Option (String × Direction)) : Selection :=
  { selection with order }

/-- A filter and an order pass each other. -/
theorem whereIf_withOrder (selection : Selection) (order : Option (String × Direction))
    (condition : Bool) (predicate : Predicate) :
    (selection.withOrder order).whereIf condition predicate =
      (selection.whereIf condition predicate).withOrder order := by
  unfold whereIf withOrder
  dsimp only
  split
  · rfl
  · cases Filter.compile ⟨selection.descriptor, selection.dialect⟩ predicate <;> rfl

theorem whereAll_withOrder (selection : Selection) (order : Option (String × Direction))
    (es : List Predicate) :
    (selection.withOrder order).whereAll es = (selection.whereAll es).withOrder order := by
  induction es generalizing selection with
  | nil => rfl
  | cons e es ih =>
      show ((selection.withOrder order).whereIf true e).whereAll es = _
      rw [whereIf_withOrder, ih]
      rfl

theorem order_whereIf (selection : Selection) (condition : Bool) (predicate : Predicate) :
    (selection.whereIf condition predicate).order = selection.order := by
  obtain ⟨_, _, h⟩ := selection.exists_whereIf condition predicate
  rw [h]

/-- **Steps add their filters and name their last order**, however they alternate. -/
theorem foldl_apply_eq (selection : Selection) (steps : List SelectionStep) :
    steps.foldl SelectionStep.apply selection =
      (selection.whereAll (SelectionStep.predicates steps)).withOrder
        ((SelectionStep.lastOrder? steps).or selection.order) := by
  induction steps generalizing selection with
  | nil => rfl
  | cons step steps ih =>
      rw [List.foldl_cons, ih]
      match step with
      | .restrict true predicate =>
          rw [SelectionStep.apply, order_whereIf]
          rfl
      | .restrict false predicate => rfl
      | .order property direction =>
          show ((selection.withOrder (some (property, direction))).whereAll _).withOrder
            ((SelectionStep.lastOrder? steps).or (some (property, direction))) = _
          rw [whereAll_withOrder, SelectionStep.lastOrder?_order, Option.or_assoc]
          rfl

/-- The steps that matter do what all steps do. -/
theorem foldl_apply_kept (selection : Selection) (steps : List SelectionStep) :
    (SelectionStep.kept steps).foldl SelectionStep.apply selection =
      steps.foldl SelectionStep.apply selection := by
  rw [foldl_apply_eq, foldl_apply_eq, SelectionStep.predicates_kept, SelectionStep.lastOrder?_kept]

/-! ### The first filter that does not compile -/

section Fault

variable {selection : Selection} {predicate : Predicate} {fault : Error}

/-- A selection with a fault takes no more filters. -/
theorem whereAll_of_fault (hfault : selection.fault = some fault) (es : List Predicate) :
    selection.whereAll es = selection := by
  induction es with
  | nil => rfl
  | cons e es ih =>
      have hstep : selection.whereIf true e = selection := by
        rw [whereIf, hfault]
        rfl
      show (selection.whereIf true e).whereAll es = _
      rw [hstep, ih]

/-- A filter that does not compile is the fault of a selection that had none. -/
theorem whereIf_of_error (hfault : selection.fault = none)
    (h : selection.filter.compile predicate = .error fault) :
    selection.whereIf true predicate = { selection with fault := some fault } := by
  rw [filter] at h
  rw [whereIf, hfault]
  simp [h]

/-- Behind filters that compile, the first one that does not is the fault, and stays it. -/
theorem fault_whereAll_append (hfault : selection.fault = none) {before : List Predicate}
    (hbefore : ∀ e ∈ before, ∃ c, selection.filter.compile e = .ok c)
    (h : selection.filter.compile predicate = .error fault) (after : List Predicate) :
    (selection.whereAll (before ++ predicate :: after)).fault = some fault := by
  obtain ⟨cs, hcs⟩ := exists_mapM_eq_ok hbefore
  rw [whereAll, List.foldl_append, List.foldl_cons, ← whereAll, ← whereAll,
    whereAll_of_compile hfault hcs]
  have hstep : Selection.whereIf { selection with filters := selection.filters ++ cs } true
      predicate = { selection with filters := selection.filters ++ cs, fault := some fault } :=
    whereIf_of_error hfault h
  rw [hstep, whereAll_of_fault rfl]

end Fault

end Selection

/-- A selection with a fault ends in it, whatever is made of the rows. -/
theorem SelectionEnd.action_of_fault {selection : Selection} {fault : Error}
    (h : selection.fault = some fault) (ending : SelectionEnd) :
    ending.action selection = throw fault := by
  have hcheck := Selection.check_eq_error h
  cases ending with
  | entities =>
      show selection.fetch = _
      rw [Selection.fetch, hcheck]
      rfl
  | count =>
      show selection.count = _
      rw [Selection.count, hcheck]
      rfl
  | page number perPage =>
      show selection.fetchPage number perPage = _
      rw [Selection.fetchPage, hcheck]
      rfl
  | cursor token pageSize =>
      show selection.fetchCursor token pageSize = _
      rw [Selection.fetchCursor, hcheck]
      rfl

/-! ### Selections of a mapper -/

namespace Operation

/-- **What comes of the steps of a selection.**  A selection is the one that is given only its
filters with a condition that holds, one after the other, and behind them the order that is named
last (`SelectionStep.kept`); filters without it make no difference.  If all of these filters
(`SelectionStep.predicates`) compile, their conditions are those of the selection.  Otherwise the
first that does not compile is the error of every `SelectionEnd`, before anything else is looked at,
and nothing is sent. -/
theorem steps_kept (mapper : Mapper) (connection : String) (type : EntityType)
    (steps : List SelectionStep) (ending : SelectionEnd) :
    let start : Selection := ⟨mapper, type, Descriptor.build mapper.tableRule type,
      mapper.dialectFor connection, [], none, none⟩
    (select connection type steps ending).action mapper =
      (select connection type (SelectionStep.kept steps) ending).action mapper ∧
    (∀ cs, (SelectionStep.predicates steps).mapM start.filter.compile = .ok cs →
      steps.foldl SelectionStep.apply start =
        { start with filters := cs, order := SelectionStep.lastOrder? steps }) ∧
    ∀ before predicate after fault,
      SelectionStep.predicates steps = before ++ predicate :: after →
      (∀ e ∈ before, ∃ c, start.filter.compile e = .ok c) →
      start.filter.compile predicate = .error fault →
      ∀ {σ : Type} (answer : (c : Call) → σ → c.Answer × σ) (cache : Cache) (s : σ),
        cache.Valid mapper →
        let seen :=
          (((select connection type steps ending).action mapper).dialogue cache).transcript answer s
        seen.1 = [] ∧ seen.2.1.1 = .error fault ∧ seen.2.2 = s := by
  intro start
  refine ⟨?_, fun cs hcs => ?_, ?_⟩
  · rw [action_select, action_select]
    refine bind_congr fun descriptor => ?_
    rw [Selection.foldl_apply_kept]
  · rw [Selection.foldl_apply_eq, Selection.whereAll_of_compile rfl hcs]
    show { start with
      filters := [] ++ cs, order := (SelectionStep.lastOrder? steps).or none } = _
    rw [List.nil_append, Option.or_none]
  · intro before predicate after fault hsteps hbefore hfault σ answer cache s hcache
    obtain ⟨cache', hselect⟩ := dialogue_select hcache connection type
    have hends : (steps.foldl SelectionStep.apply start).fault = some fault := by
      rw [Selection.foldl_apply_eq, hsteps]
      exact Selection.fault_whereAll_append rfl hbefore hfault after
    rw [hselect, SelectionEnd.action_of_fault hends]
    exact ⟨rfl, rfl, rfl⟩

end Operation

/-- A filter that would be wrong but is not added, an order by a property that there is not, a
filter, and a wrong one that is added. -/
def Sample.faulty : List SelectionStep :=
  [.restrict false (.isIn (.column "title") []), .order "title" .ascending,
    .restrict true percent, .restrict true (.isIn (.column "nickname") [])]

/-- The wrong filter that is added is the error, though the cursor is wrong as well. -/
theorem Operation.steps_kept_faulty :
    let seen := (((select "FbConnection" Sample.note Sample.faulty
      (.cursor (some "***") 0)).action .standard).dialogue .empty).transcript Recording.answer
        (.start "FbConnection" true)
    seen.1 = [] ∧ seen.2.1.1 = .error (.unknownProperty "Note" "nickname") := by
  obtain ⟨-, -, hfault⟩ := Operation.steps_kept .standard "FbConnection" Sample.note Sample.faulty
    (.cursor (some "***") 0)
  have hbefore : ∀ e ∈ [Sample.percent], ∃ c, Filter.compile
      ⟨.build pluralTable Sample.note, .firebird⟩ e = .ok c := by
    intro e he
    obtain rfl := List.mem_singleton.mp he
    exact ⟨_, rfl⟩
  obtain ⟨hsent, hresult, -⟩ := hfault [Sample.percent] (.isIn (.column "nickname") []) []
    (.unknownProperty "Note" "nickname") rfl hbefore rfl Recording.answer .empty
    (.start "FbConnection" true) Cache.valid_empty
  exact ⟨hsent, hresult⟩

end RowMapper
