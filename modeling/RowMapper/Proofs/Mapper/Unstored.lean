import RowMapper.Declaration.Model
import RowMapper.Proofs.Filter.Where
import RowMapper.Proofs.Mapper.DefaultOrder
import RowMapper.Recording

/-!
# Properties that are not stored

A property that is not stored has a column in the declaration of its type.  No statement should name
it.

* `EntityType.recolumn` — the type in which a property that is not stored has another column;
* `Operation.recolumn` — an operation on that type instead;
* `Action.SameCalls` — two actions that cannot be told apart by what they send;
* `Operation.sameCalls_recolumn` — an operation and the one on the other type are such actions,
  unless the property orders the rows by default;
* `unstored_unsent` — what this says of runs, and when a page in the default order is the page in
  the order of that property.

### What it means that a column is not named

A text may have the name of the column in it by accident: the table may be called like that, or the
key that is read back is answered under the name `id`.  So names in texts are not looked for.  What
is shown is that the statements stay the same whatever the column is called, and a statement that
named it would not.

### Where it goes wrong

Keys, writes, filters and orders that are named take their properties from the descriptor, which
leaves out what is not stored.  The default order is taken from all properties of the type.  A type
may name a property that is not stored there, and then its pages are ordered by a column that
need not exist: `ranked_page_unstored`.
-/

namespace RowMapper

open Sql

/-! ### Another column -/

/-- The property with another column, if it has the given name and is not stored. -/
def Property.recolumn (name column : String) (p : Property) : Property :=
  if p.name = name ∧ p.write = false then { p with column } else p

/-- The type in which the property of a name has another column, if it is not stored. -/
def EntityType.recolumn (name column : String) (type : EntityType) : EntityType :=
  { type with fields := type.fields.map fun field =>
      { field with property := field.property.recolumn name column } }

/-- The rule sees the name of a type and whether it is that of an interface, and nothing else. -/
def TableRule.SeesNames (rule : TableRule) : Prop :=
  ∀ type other : EntityType, type.name = other.name → type.interface = other.interface →
    rule type = rule other

theorem seesNames_pluralTable : TableRule.SeesNames pluralTable := by
  intro type other hname hinterface
  simp only [pluralTable, hname, hinterface]

namespace Property

variable (name column : String) (p : Property)

theorem recolumn_of_write {p : Property} (h : p.write = true) : p.recolumn name column = p :=
  if_neg fun hunstored => by simp [h] at hunstored

theorem recolumn_of_ne {p : Property} (h : p.name ≠ name) : p.recolumn name column = p :=
  if_neg fun hunstored => h hunstored.1

@[simp] theorem name_recolumn : (p.recolumn name column).name = p.name := by
  unfold recolumn
  split <;> rfl

@[simp] theorem write_recolumn : (p.recolumn name column).write = p.write := by
  unfold recolumn
  split <;> rfl

/-- What is stored is the same. -/
theorem filter_write_recolumn (ps : List Property) :
    (ps.map (recolumn name column)).filter (·.write) = ps.filter (·.write) := by
  induction ps with
  | nil => rfl
  | cons p ps ih =>
      cases hwrite : p.write with
      | false => simp [hwrite, ih]
      | true => simp [hwrite, ih, recolumn_of_write name column hwrite]

end Property

namespace EntityType

variable (name column : String) (type : EntityType)

theorem properties_recolumn :
    (type.recolumn name column).properties = type.properties.map (Property.recolumn name column) := by
  rw [properties, recolumn, properties, List.map_map, List.map_map]
  rfl

theorem defaultProperty?_recolumn :
    (type.recolumn name column).defaultProperty? =
      type.defaultProperty?.map (Property.recolumn name column) := by
  have hsort : (type.recolumn name column).defaultSort = type.defaultSort := rfl
  rw [defaultProperty?, hsort, properties_recolumn, defaultProperty?]
  cases type.defaultSort with
  | none => rfl
  | some sort =>
      have hname : (fun p : Property => p.name == sort) ∘ Property.recolumn name column =
          fun p => p.name == sort := funext fun p => by rw [Function.comp_apply, p.name_recolumn]
      show List.find? _ _ = Option.map _ (List.find? _ _)
      rw [List.find?_map, hname]

/-- Only the default order may tell the two types apart. -/
theorem build_recolumn {rule : TableRule} (hrule : rule.SeesNames) :
    Descriptor.build rule (type.recolumn name column) =
      (Descriptor.build rule type).withSort (type.recolumn name column).defaultProperty? := by
  have hstored : (type.recolumn name column).properties.filter (·.write) =
      type.properties.filter (·.write) := by
    rw [properties_recolumn, Property.filter_write_recolumn]
  have htable : rule (type.recolumn name column) = rule type := hrule _ _ rfl rfl
  simp only [Descriptor.build, hstored, htable, defaultProperty?]
  rfl

/-- Rows are read in the same way, because a property that is not stored is not read. -/
theorem fromRow_recolumn : (type.recolumn name column).fromRow = type.fromRow := by
  funext own row
  have hfield (field : Field) :
      fetchField own row { field with property := field.property.recolumn name column } =
        fetchField own row field := by
    cases hwrite : field.property.write with
    | false => simp [fetchField, hwrite]
    | true => rw [Property.recolumn_of_write name column hwrite]
  show (type.fields.map _).mapM (fetchField own row) = type.fields.mapM (fetchField own row)
  rw [List.mapM_map]
  exact congrArg (fun f => type.fields.mapM f) (funext hfield)

end EntityType

/-! ### Operations -/

namespace Operation

/-- The operation on the type in which the property of a name has another column, if it is not
stored. -/
def recolumn (name column : String) : Operation → Operation
  | get connection type id => get connection (type.recolumn name column) id
  | getAll connection type => getAll connection (type.recolumn name column)
  | insert connection type record => insert connection (type.recolumn name column) record
  | insertMany connection type records => insertMany connection (type.recolumn name column) records
  | update connection type record => update connection (type.recolumn name column) record
  | updateTracked connection tracked =>
    updateTracked connection { tracked with type := tracked.type.recolumn name column }
  | delete connection type record => delete connection (type.recolumn name column) record
  | deleteMany connection type records => deleteMany connection (type.recolumn name column) records
  | deleteAll connection type => deleteAll connection (type.recolumn name column)
  | select connection type steps ending =>
    select connection (type.recolumn name column) steps ending

/-- The property that orders the rows of an operation which needs an order and names none. -/
def defaultOrder? : Operation → Option Property
  | select _ type steps ending =>
    if ending.ordered && !steps.any SelectionStep.orders then type.defaultProperty? else none
  | _ => none

end Operation

namespace Mapper

variable {mapper : Mapper} (hrule : mapper.tableRule.SeesNames)
include hrule

/-- The statements that are kept are the same. -/
theorem template_recolumn (name column : String) (type : EntityType) (kind : StatementKind)
    (dialect : Dialect) :
    mapper.template ⟨type.recolumn name column, kind, dialect⟩ =
      mapper.template ⟨type, kind, dialect⟩ := by
  simp only [template, type.build_recolumn name column hrule]
  cases kind <;> rfl

end Mapper

namespace Action.Same

variable {mapper : Mapper} {α : Type} (hrule : mapper.tableRule.SeesNames) (name column : String)
include hrule

/-- The descriptors differ at most in the default order. -/
theorem describe_recolumn {type : EntityType} {f g : Descriptor → Action α}
    (hfg : Same mapper (f (Descriptor.build mapper.tableRule type))
      (g ((Descriptor.build mapper.tableRule type).withSort
        (type.recolumn name column).defaultProperty?))) :
    Same mapper (mapper.describe type >>= f)
      (mapper.describe (type.recolumn name column) >>= g) := by
  refine describe ?_
  rw [type.build_recolumn name column hrule]
  exact hfg

theorem cachedQuery_recolumn (type : EntityType) (kind : StatementKind) (dialect : Dialect)
    {vs : List Value} {template : Template}
    (hkey : mapper.template ⟨type, kind, dialect⟩ = .ok template) (hvs : vs.length = template.arity) :
    Same mapper (Mapper.cachedQuery ⟨type, kind, dialect⟩ vs template.tokens)
      (Mapper.cachedQuery ⟨type.recolumn name column, kind, dialect⟩ vs template.tokens) :=
  cachedQuery ⟨type, kind, dialect⟩ ⟨type.recolumn name column, kind, dialect⟩ rfl hkey
    ((Mapper.template_recolumn hrule name column type kind dialect).trans hkey) hvs

theorem get (connection : String) (type : EntityType) (id : Value) :
    Same mapper (mapper.get connection type id)
      (mapper.get connection (type.recolumn name column) id) := by
  refine describe_recolumn hrule name column (lift_bind fun key hkey => ?_)
  refine (cachedQuery_recolumn hrule name column _ _ _ (Mapper.template_get hkey _) rfl).bind
    fun query => ?_
  rw [type.fromRow_recolumn]
  refine Transparent.same ((Transparent.query query).bind fun rows => ?_)
  cases rows with
  | nil => exact .pure none
  | cons row rest => exact (Transparent.lift _).bind fun record => .pure (some record)

theorem getAll (connection : String) (type : EntityType) :
    Same mapper (mapper.getAll connection type)
      (mapper.getAll connection (type.recolumn name column)) := by
  refine describe_recolumn hrule name column ?_
  refine (cachedQuery_recolumn hrule name column _ .getAll _ rfl rfl).bind fun query => ?_
  rw [type.fromRow_recolumn]
  refine Transparent.same ((Transparent.query query).bind fun rows => ?_)
  rw [mapM_lift]
  exact .lift _

theorem updateColumns (connection : String) (type : EntityType) (record : Record)
    (only : Option (List String)) :
    Same mapper (mapper.updateColumns connection type record only)
      (mapper.updateColumns connection (type.recolumn name column) record only) := by
  refine describe_recolumn hrule name column ?_
  simp only [Descriptor.requireKeys_withSort, Descriptor.updatable_withSort,
    Descriptor.entity_withSort, Descriptor.table_withSort]
  refine lift_bind fun keys hkeys => ite (throw_bind _ _ _) ?_
  refine ite (Transparent.same (.pure false)) (lift_bind fun assigned hassigned => ?_)
  refine lift_bind fun identifying hidentifying => ?_
  cases only with
  | none =>
      refine (cachedQuery_recolumn hrule name column type .update _
        (Mapper.template_update hkeys _) ?_).bind fun query => ?_
      · exact length_append_of_takeValues hassigned hidentifying
      · exact Transparent.same ((Transparent.exec query).bind fun _ => .pure _)
  | some names =>
      exact Transparent.same ((Transparent.lift _).bind fun query =>
        (Transparent.exec query).bind fun _ => .pure _)

theorem delete (connection : String) (type : EntityType) (record : Record) :
    Same mapper (mapper.delete connection type record)
      (mapper.delete connection (type.recolumn name column) record) := by
  refine describe_recolumn hrule name column (lift_bind fun keys hkeys => lift_bind fun vs hvs => ?_)
  refine (cachedQuery_recolumn hrule name column type .delete _ (Mapper.template_delete hkeys _)
    (length_of_takeValues hvs)).bind fun query => ?_
  exact Transparent.same ((Transparent.exec query).bind fun affected => .pure _)

theorem deleteMany (connection : String) (type : EntityType) (records : List Record) :
    Same mapper (mapper.deleteMany connection type records)
      (mapper.deleteMany connection (type.recolumn name column) records) := by
  refine describe_recolumn hrule name column (lift_bind fun keys hkeys => ?_)
  refine ite (throw_bind _ _ _) ?_
  rw [mapM_keyCondition, mapM_keyCondition]
  refine Transparent.same ((Transparent.lift _).bind fun conditions => ?_)
  exact (Transparent.lift _).bind fun query => (Transparent.exec query).bind fun _ => .pure _

theorem deleteAll (connection : String) (type : EntityType) :
    Same mapper (mapper.deleteAll connection type)
      (mapper.deleteAll connection (type.recolumn name column)) := by
  refine describe_recolumn hrule name column ?_
  refine (cachedQuery_recolumn hrule name column type .deleteAll _ rfl rfl).bind fun query => ?_
  exact Transparent.same ((Transparent.exec query).bind fun affected => .pure _)

theorem insert (connection : String) (type : EntityType) (record : Record) :
    Same mapper (mapper.insert connection type record)
      (mapper.insert connection (type.recolumn name column) record) :=
  describe_recolumn hrule name column (Transparent.same (.whileOpen (.lift_bind fun _ hvs =>
    (Operation.Walk.insertReturning connection _ (fun _ => rfl) hvs).transparent)))

theorem insertMany (connection : String) (type : EntityType) (records : List Record) :
    Same mapper (mapper.insertMany connection type records)
      (mapper.insertMany connection (type.recolumn name column) records) := by
  refine describe_recolumn hrule name column ?_
  cases records with
  | nil => exact Transparent.same (.pure 0)
  | cons record records =>
      exact Transparent.same (.whileOpen
        (Operation.Walk.insertRows connection type (record :: records) fun _ => rfl).transparent)

/-- A selection does not look at the type but for its rows, nor at the default order unless it needs
an order and has none. -/
theorem select (connection : String) (type : EntityType) (steps : List SelectionStep)
    (ending : SelectionEnd)
    (hsort : ending.ordered = true → steps.any SelectionStep.orders = false →
      (type.recolumn name column).defaultProperty? = type.defaultProperty?) :
    Same mapper ((Operation.select connection type steps ending).action mapper)
      ((Operation.select connection (type.recolumn name column) steps ending).action mapper) := by
  rw [Operation.action_select, Operation.action_select]
  refine describe_recolumn hrule name column ?_
  let start : Selection := ⟨mapper, type, Descriptor.build mapper.tableRule type,
    mapper.dialectFor connection, [], none, none⟩
  show Same mapper (ending.action (steps.foldl SelectionStep.apply start))
    (ending.action (steps.foldl SelectionStep.apply (start.retyped (type.recolumn name column)
      (type.recolumn name column).defaultProperty?)))
  have horder := start.isSome_order_foldl_apply steps
  obtain ⟨filters, order, fault, hsteps⟩ := start.exists_foldl_apply steps
  rw [Selection.foldl_apply_retyped, hsteps, Selection.action_retyped_self]
  · have hwalk : Walk mapper True (fun _ => True) (fun _ => True) .asking
        (ending.action { start with filters, order, fault }) :=
      SelectionEnd.walk (by rfl) ending (fun _ _ _ _ => trivial) fun _ => trivial
    exact hwalk.transparent.same
  · exact type.fromRow_recolumn name column
  · intro hordered hnone
    obtain rfl : order = none := hnone
    refine hsort hordered ?_
    rw [hsteps] at horder
    simpa [start] using horder.symm

end Action.Same

namespace Action

/-- Two actions send the same calls on any valid caches, whatever is answered. -/
def SameCalls (mapper : Mapper) {α β : Type} (x : Action α) (y : Action β) : Prop :=
  ∀ c d : Cache, c.Valid mapper → d.Valid mapper →
    Dialogue.Rel (fun _ _ => True) (x.dialogue c) (y.dialogue d)

variable {mapper : Mapper} {α β γ : Type}

theorem Same.sameCalls {x y : Action α} (h : Same mapper x y) : SameCalls mapper x y :=
  fun c d hc hd => (h c d hc hd).mono fun _ _ _ => trivial

/-- What is made of the results sends nothing. -/
theorem Same.sameCalls_bind_pure {x y : Action α} (h : Same mapper x y) (f : α → β) (g : α → γ) :
    SameCalls mapper (x >>= fun a => pure (f a)) (y >>= fun a => pure (g a)) := by
  intro c d hc hd
  rw [dialogue_bind, dialogue_bind]
  refine (h c d hc hd).bind fun ending other hagree => ?_
  obtain ⟨result, c⟩ := ending
  obtain ⟨result', d⟩ := other
  obtain ⟨rfl, -⟩ := hagree
  cases result <;> exact .done trivial

end Action

namespace Operation

variable {mapper : Mapper} (hrule : mapper.tableRule.SeesNames) {name : String}
include hrule

/-- **No operation depends on the column of a property that is not stored**, unless the property
is what orders its rows by default. -/
theorem sameCalls_recolumn (operation : Operation)
    (hsort : ∀ p ∈ operation.defaultOrder?, p.write = true ∨ p.name ≠ name) (column : String) :
    Action.SameCalls mapper (operation.action mapper)
      ((operation.recolumn name column).action mapper) := by
  cases operation with
  | get connection type id => exact (Action.Same.get hrule name column _ _ _).sameCalls
  | getAll connection type => exact (Action.Same.getAll hrule name column _ _).sameCalls
  | insert connection type record =>
      exact (Action.Same.insert hrule name column _ _ _).sameCalls
  | insertMany connection type records =>
      exact (Action.Same.insertMany hrule name column _ _ _).sameCalls
  | update connection type record =>
      exact (Action.Same.updateColumns hrule name column _ _ _ none).sameCalls
  | updateTracked connection tracked =>
      obtain ⟨type, record, dirty⟩ := tracked
      simp only [recolumn, action, Mapper.holding_updateTracked]
      cases dirty.only with
      | none => exact fun _ _ _ _ => .done trivial
      | some only =>
          exact (Action.Same.updateColumns hrule name column _ type _ only).sameCalls_bind_pure _ _
  | delete connection type record =>
      exact (Action.Same.delete hrule name column _ _ _).sameCalls
  | deleteMany connection type records =>
      exact (Action.Same.deleteMany hrule name column _ _ _).sameCalls
  | deleteAll connection type => exact (Action.Same.deleteAll hrule name column _ _).sameCalls
  | select connection type steps ending =>
      refine (Action.Same.select hrule name column connection type steps ending ?_).sameCalls
      intro hordered horders
      rw [type.defaultProperty?_recolumn name column]
      cases hdefault : type.defaultProperty? with
      | none => rfl
      | some p =>
          have hp : p.write = true ∨ p.name ≠ name :=
            hsort p (by simp [defaultOrder?, hordered, horders, hdefault])
          rcases hp with hwrite | hname
          · exact congrArg some (p.recolumn_of_write name column hwrite)
          · exact congrArg some (p.recolumn_of_ne name column hname)

end Operation

/-! ### Pages in the default order -/

namespace Descriptor

variable {type : EntityType} {sort : String} {p : Property}

/-- A property that is not stored is not found by its name. -/
theorem property_of_unstored (rule : TableRule) (hnames : (type.properties.map (·.name)).Nodup)
    (hp : type.properties.find? (·.name == sort) = some p) (hwrite : p.write = false) :
    (build rule type).property sort = .error (.unknownProperty type.name sort) := by
  have hname : p.name = sort := by simpa using List.find?_some hp
  have hfind : (build rule type).properties.find? (·.name == sort) = none := by
    rw [List.find?_eq_none]
    intro q hq hsame
    obtain ⟨hmem, hstored⟩ : q ∈ type.properties ∧ q.write = true := by
      simpa [build] using hq
    have hsort : q.name = p.name := by rw [hname]; simpa using hsame
    have hqp : q = p := List.inj_on_of_nodup_map hnames hmem (List.mem_of_find?_eq_some hp) hsort
    rw [hqp, hwrite] at hstored
    cases hstored
  rw [property, hfind]
  rfl

end Descriptor

namespace Operation

variable {mapper : Mapper} {type : EntityType} {sort : String} {p : Property}

/-- A page of a type that is ordered by a property that is not stored is sent, but refused if that
order is named. -/
theorem dialogue_page_ne (hnames : (type.properties.map (·.name)).Nodup)
    (hsort : type.defaultSort = some sort) (hp : type.defaultProperty? = some p)
    (hwrite : p.write = false) (connection : String) :
    ((select connection type [] (.page 1 1)).action mapper).dialogue .empty ≠
      ((select connection type [.order sort .ascending] (.page 1 1)).action mapper).dialogue
        .empty := by
  obtain ⟨cache', hselect⟩ :=
    dialogue_select (Cache.valid_empty : Cache.Valid mapper .empty) connection type
  have hfind : type.properties.find? (·.name == sort) = some p :=
    (EntityType.find?_of_defaultSort hsort).trans hp
  have hunknown := Descriptor.property_of_unstored mapper.tableRule hnames hfind hwrite
  let start : Selection := ⟨mapper, type, Descriptor.build mapper.tableRule type,
    mapper.dialectFor connection, [], none, none⟩
  have hsorted : start.sort "paged" = .ok (p, .ascending) := by
    have hdefault : start.descriptor.defaultSort = some p := hp
    have horder : start.order = none := rfl
    simp only [Selection.sort, horder, hdefault]
  have hrefused : (start.orderBy sort .ascending).sort "paged" =
      .error (.unknownProperty type.name sort) := by
    have hproperty : (start.orderBy sort .ascending).descriptor.property sort =
        .error (.unknownProperty type.name sort) := hunknown
    have horder : (start.orderBy sort .ascending).order = some (sort, .ascending) := rfl
    simp only [Selection.sort, horder, hproperty]
    rfl
  obtain ⟨c, next, hask⟩ : ∃ c next, (start.fetchPage 1 1).dialogue cache' = .ask c next := by
    rw [Selection.fetchPage, hsorted]
    exact ⟨_, _, rfl⟩
  have hdone : ((start.orderBy sort .ascending).fetchPage 1 1).dialogue cache' =
      .done (.error (.unknownProperty type.name sort), cache') := by
    rw [Selection.fetchPage, hrefused]
    rfl
  rw [hselect, hselect]
  show (start.fetchPage 1 1).dialogue cache' ≠
    ((start.orderBy sort .ascending).fetchPage 1 1).dialogue cache'
  rw [hask, hdone]
  intro h
  cases h

end Operation

/-- **What is not stored is not sent.**  For a rule that `SeesNames`, no operation sends anything
else if the column of a property that is not stored is called otherwise (`Operation.recolumn`),
except for pages without an order on types whose default order is that property
(`Operation.defaultOrder?`).  Those are the pages in which the default order is named, for every
selection that names none (`SelectionStep.orders`), exactly if the property of the default order is
stored. -/
theorem unstored_unsent {mapper : Mapper} (hrule : mapper.tableRule.SeesNames) :
    (∀ (operation : Operation) (name column : String),
      (∀ p ∈ operation.defaultOrder?, p.write = true ∨ p.name ≠ name) →
      ∀ {σ : Type} (answer : (c : Call) → σ → c.Answer × σ) (s : σ) (cache other : Cache),
        cache.Valid mapper → other.Valid mapper →
        (((operation.action mapper).dialogue cache).transcript answer s).1 =
          ((((operation.recolumn name column).action mapper).dialogue other).transcript
            answer s).1) ∧
    ∀ (type : EntityType) (sort : String) (p : Property),
      (type.properties.map (·.name)).Nodup → type.defaultSort = some sort →
      type.defaultProperty? = some p →
      (p.write = true ↔
        ∀ (connection : String) (steps : List SelectionStep) (ending : SelectionEnd)
          (cache : Cache), steps.any SelectionStep.orders = false → ending.ordered = true →
          cache.Valid mapper →
          ((Operation.select connection type steps ending).action mapper).dialogue cache =
            ((Operation.select connection type (steps ++ [.order sort .ascending]) ending).action
              mapper).dialogue cache) := by
  refine ⟨?_, ?_⟩
  · intro operation name column hsort σ answer s cache other hcache hother
    exact ((operation.sameCalls_recolumn hrule hsort column) cache other hcache
      hother).transcript answer s |>.1
  · intro type sort p hnames hsort hp
    constructor
    · intro hwrite connection steps ending cache hsteps hordered hcache
      exact Operation.dialogue_page_of_write hsort hp hwrite connection hsteps hordered hcache
    · intro hsame
      by_contra hunstored
      exact Operation.dialogue_page_ne hnames hsort hp (Bool.eq_false_iff.mpr hunstored) ""
        (hsame "" [] (.page 1 1) .empty rfl rfl Cache.valid_empty)

/-! ### Ranks -/

namespace Sample

/-- A rank has a slug and a title, and a number that is not stored but orders ranks. -/
def ranking : Declaration :=
  ⟨.struct, "Ranked", [.markers [("table", some (.text "ranks")),
      ("default_sort", some (.text "rank"))]],
    [⟨"slug", "String", [.markers [("explicit_key", none)]]⟩,
      ⟨"rank", "i32", [.markers [("write", some (.bool false)),
        ("column", some (.text "rank_no"))]]⟩,
      ⟨"title", "String", []⟩]⟩

/-- The type of ranks. -/
def ranks : EntityType :=
  { name := "Ranked"
    table := some "ranks"
    defaultSort := some "rank"
    interface := false
    fields :=
      [⟨⟨"slug", "slug", "String", false, true, false, false, true⟩, .required .text⟩,
        ⟨⟨"rank", "rank_no", "i32", false, false, false, false, false⟩, .required .int32⟩,
        ⟨⟨"title", "title", "String", false, false, false, false, true⟩, .required .text⟩]
    provided := ["slug", "title"] }

/-- The page of ranks with the given steps: what is sent to an empty database, and the answer. -/
def ranksPage (steps : List SelectionStep) :
    List Call × Except Error (PagedList Record) :=
  let seen := (((Operation.select "SqliteConnection" ranks steps (.page 1 1)).action
    .standard).dialogue .empty).transcript Recording.answer (.start "SqliteConnection" true)
  (seen.1, seen.2.1.1)

end Sample

/-- Ranks in the order of their titles say nothing of the column of their numbers, and notes are
ordered by their stored keys. -/
theorem unstored_unsent_ranked :
    (Sample.ranksPage [.order "title" .descending]).1 =
      (((((Operation.select "SqliteConnection" Sample.ranks [.order "title" .descending]
        (.page 1 1)).recolumn "rank" "other").action .standard).dialogue .empty).transcript
          Recording.answer (.start "SqliteConnection" true)).1 ∧
    ∀ steps : List SelectionStep, steps.any SelectionStep.orders = false →
      ((Operation.select "" Sample.note steps (.page 1 1)).action .standard).dialogue .empty =
        ((Operation.select "" Sample.note (steps ++ [.order "id" .ascending])
          (.page 1 1)).action .standard).dialogue .empty := by
  have h := unstored_unsent (show Mapper.standard.tableRule.SeesNames from seesNames_pluralTable)
  refine ⟨?_, fun steps hsteps => ?_⟩
  · exact h.1 (.select "SqliteConnection" Sample.ranks [.order "title" .descending] (.page 1 1))
      "rank" "other" (fun p hp => by cases hp) Recording.answer (.start "SqliteConnection" true)
      .empty .empty Cache.valid_empty Cache.valid_empty
  · exact (h.2 Sample.note "id" Sample.key (by decide) rfl rfl).mp rfl "" steps (.page 1 1) .empty
      hsteps rfl Cache.valid_empty

/-- Ranks without an order are a page by the column of a property that is not stored.  Naming that
order is an error, and nothing is sent. -/
theorem ranked_page_unstored :
    (Sample.ranking.model.toOption.bind EntityType.ofModel?) = some Sample.ranks ∧
    (Sample.ranksPage []).1 =
      [.query ⟨"SELECT COUNT(*) FROM ranks", [], none⟩,
        .query ⟨"SELECT * FROM ranks ORDER BY \"rank_no\" ASC LIMIT ? OFFSET ?",
          [.int64 (some 1), .int64 (some 0)], none⟩] ∧
    Sample.ranksPage [.order "rank" .ascending] =
      ([], .error (.unknownProperty "Ranked" "rank")) := by
  refine ⟨by decide +kernel, by decide +kernel, rfl⟩

end RowMapper
