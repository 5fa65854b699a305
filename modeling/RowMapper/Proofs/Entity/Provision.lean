import Mathlib.Data.List.Nodup
import RowMapper.Declaration.Model
import RowMapper.Entity.Descriptor
import RowMapper.Proofs.Entity.Picking
import RowMapper.Proofs.Outcome

/-!
# Entities provide their values

A statement asks an entity for the values of some of its properties, and the entity answers with
a list that its type has laid out in advance.  Both lists come from the declaration of the type,
each on its own way.

* `Model.Describes` — a type is as its declaration says, whatever the types of its fields are;
* `Record.Complete`, `Record.value?` — an entity of a type, and its value for a property;
* `Declaration.not_both_keys` — no property of an accepted declaration is a key in both ways;
* `nodup_allKeys` — so no property is a key twice;
* `exists_valuesOf` — an entity has its own value for each of any stored properties with different
  names;
* `Descriptor.Asks` — the lists of properties that statements ask for, each of them of this
  kind (`Asks.nodup`, `Asks.stored`).

### Where the keys could meet

A generated key is a property that is marked so, or else one named id.  The marks of both kinds
of keys exclude each other, and a property named id is passed over if callers provide it.
-/

namespace RowMapper

/-! ### Declared types -/

/-- A type is as a model says.  The model knows how the types of fields are spelled, and these
may be any types. -/
structure Model.Describes (model : Model) (type : EntityType) : Prop where
  name : type.name = model.name
  table : type.table = model.table
  defaultSort : type.defaultSort = model.defaultSort
  interface : type.interface = model.interface
  properties : type.properties = model.properties
  provided : type.provided = model.provided

/-- What is recovered from each result is recovered from all of them. -/
theorem map_eq_of_mapM_eq_some {α β : Type} {f : α → Option β} {g : β → α}
    (hfg : ∀ a b, f a = some b → g b = a) {as : List α} {bs : List β} (h : as.mapM f = some bs) :
    bs.map g = as := by
  induction as generalizing bs with
  | nil =>
      obtain rfl := Option.some.inj h
      rfl
  | cons a as ih =>
      rw [List.mapM_cons] at h
      obtain ⟨b, hb, h⟩ := Option.bind_eq_some_iff.mp h
      obtain ⟨rest, hrest, h⟩ := Option.bind_eq_some_iff.mp h
      obtain rfl := Option.some.inj h
      rw [List.map_cons, hfg a b hb, ih hrest]

/-- The type that a model describes is as the model says. -/
theorem Model.describes_of_ofModel? {model : Model} {type : EntityType}
    (h : EntityType.ofModel? model = some type) : model.Describes type := by
  obtain ⟨fields, hfields, htype⟩ := Option.bind_eq_some_iff.mp h
  obtain rfl := Option.some.inj htype
  have hproperties : fields.map (·.property) = model.properties := by
    refine map_eq_of_mapM_eq_some (fun property field hfield => ?_) hfields
    obtain ⟨fieldType, -, hfield⟩ := Option.bind_eq_some_iff.mp hfield
    rw [← Option.some.inj hfield]
  exact ⟨rfl, rfl, rfl, rfl, hproperties, rfl⟩

namespace Declaration

/-- The markers of a type say nothing about its properties. -/
theorem properties_foldl_apply (markers : List TypeMarker) (model : Model) :
    (markers.foldl TypeMarker.apply model).properties = model.properties := by
  induction markers generalizing model with
  | nil => rfl
  | cons marker markers ih =>
      rw [List.foldl_cons, ih]
      cases marker <;> rfl

/-- A property that is accepted is not a key in both ways. -/
theorem not_both_keys_of_property {field : FieldDeclaration} {p : Property}
    (h : property field = .ok p) : ¬ (p.key = true ∧ p.explicitKey = true) := by
  obtain ⟨markers, -, h⟩ := exists_of_bind_eq_ok h
  dsimp only at h
  split at h
  · cases h
  · next hconflict =>
      obtain rfl := Except.ok.inj h
      rwa [Bool.and_eq_true] at hconflict

/-- The markers of a field do not change the name of its property. -/
theorem name_foldl_apply (markers : List FieldMarker) (p : Property) :
    (markers.foldl FieldMarker.apply p).name = p.name := by
  induction markers generalizing p with
  | nil => rfl
  | cons marker markers ih =>
      rw [List.foldl_cons, ih]
      cases marker <;> rfl

/-- A property has the name of its field. -/
theorem name_of_property {field : FieldDeclaration} {p : Property} (h : property field = .ok p) :
    p.name = plainName field.name := by
  obtain ⟨markers, -, h⟩ := exists_of_bind_eq_ok h
  dsimp only at h
  split at h
  · cases h
  · obtain rfl := Except.ok.inj h
    rw [name_foldl_apply]
    rfl

/-- Only structures have models, and what these are made from is read. -/
theorem exists_of_model {declaration : Declaration} {model : Model}
    (h : declaration.model = .ok model) :
    declaration.shape = .struct ∧
      (∃ groups, (declaration.attributes.mapM fun attr =>
        readAttribute TypeMarker.vocabulary .unsupportedTypeMarker attr.tokens) = .ok groups) ∧
      declaration.fields.mapM property = .ok model.properties := by
  unfold Declaration.model at h
  dsimp only at h
  split at h
  rotate_left
  · cases h
  split at h
  · cases h
  · cases h
  · cases h
  · cases h
  · next hshape =>
      obtain ⟨groups, hgroups, h⟩ := exists_of_bind_eq_ok h
      obtain ⟨properties, hproperties, h⟩ := exists_of_bind_eq_ok h
      refine ⟨hshape, ⟨groups, hgroups⟩, hproperties.trans ?_⟩
      split at h
      · rw [← Except.ok.inj h, properties_foldl_apply]
      · split at h
        · rw [← Except.ok.inj h, properties_foldl_apply]
        · cases h

/-- The properties of an accepted declaration are those of its fields. -/
theorem mapM_property_of_model {declaration : Declaration} {model : Model}
    (h : declaration.model = .ok model) :
    declaration.fields.mapM property = .ok model.properties :=
  (exists_of_model h).2.2

/-- The properties of an accepted declaration have the names of its fields. -/
theorem map_name_of_model {declaration : Declaration} {model : Model}
    (h : declaration.model = .ok model) :
    model.properties.map (·.name) = declaration.fields.map fun field => plainName field.name := by
  have hproperties := mapM_property_of_model h
  generalize declaration.fields = fields at hproperties
  generalize model.properties = properties at hproperties
  induction fields generalizing properties with
  | nil =>
      obtain rfl := Except.ok.inj hproperties
      rfl
  | cons field fields ih =>
      rw [List.mapM_cons] at hproperties
      obtain ⟨p, hp, hproperties⟩ := exists_of_bind_eq_ok hproperties
      obtain ⟨rest, hrest, hproperties⟩ := exists_of_bind_eq_ok hproperties
      obtain rfl := Except.ok.inj hproperties
      rw [List.map_cons, List.map_cons, name_of_property hp, ih rest hrest]

/-- No property of an accepted declaration is a key in both ways. -/
theorem not_both_keys {declaration : Declaration} {model : Model}
    (h : declaration.model = .ok model) :
    ∀ p ∈ model.properties, ¬ (p.key = true ∧ p.explicitKey = true) := by
  intro p hp
  obtain ⟨field, -, hfield⟩ := (mem_of_mapM_eq_ok (mapM_property_of_model h)).1 p hp
  exact not_both_keys_of_property hfield

end Declaration

/-! ### Keys -/

section Keys

variable {rule : TableRule} {type : EntityType} {p : Property}

/-- What is generated is among the stored properties. -/
theorem sublist_generatedKeys (properties : List Property) :
    (Descriptor.generatedKeys properties).Sublist properties := by
  unfold Descriptor.generatedKeys
  split
  · cases hfind : properties.find? fun p =>
        LetterCase.equalIgnoringAsciiCase p.name "id" && !p.explicitKey with
    | none => exact List.nil_sublist _
    | some p => exact List.singleton_sublist.mpr (List.mem_of_find?_eq_some hfind)
  · exact List.filter_sublist

/-- A generated key is not one that callers provide, if the marks are not mixed. -/
theorem not_explicitKey_of_mem_generatedKeys {properties : List Property}
    (hkeys : ∀ p ∈ properties, ¬ (p.key = true ∧ p.explicitKey = true))
    (hp : p ∈ Descriptor.generatedKeys properties) : ¬ p.explicitKey = true := by
  have hmem := (sublist_generatedKeys properties).mem hp
  unfold Descriptor.generatedKeys at hp
  split at hp
  · -- the property named id was looked for among those that callers do not provide
    rw [Option.mem_toList] at hp
    have hfound := List.find?_some hp
    rw [Bool.and_eq_true, Bool.not_eq_true'] at hfound
    simp [hfound.2]
  · have hkey := (List.mem_filter.mp hp).2
    exact fun hexplicit => hkeys p hmem ⟨hkey, hexplicit⟩

/-- Every key is a stored property. -/
theorem mem_properties_of_mem_allKeys (h : p ∈ (Descriptor.build rule type).allKeys) :
    p ∈ (Descriptor.build rule type).properties := by
  rcases List.mem_append.mp h with h | h
  · exact (sublist_generatedKeys _).mem h
  · exact (List.mem_filter.mp h).1

/-- The stored properties have different names if all properties have. -/
theorem nodup_properties (rule : TableRule)
    (hnames : (type.properties.map (·.name)).Nodup) :
    ((Descriptor.build rule type).properties.map (·.name)).Nodup :=
  hnames.sublist (List.filter_sublist.map _)

/-- **No property is a key twice.** -/
theorem nodup_allKeys (hnames : (type.properties.map (·.name)).Nodup)
    (hkeys : ∀ p ∈ type.properties, ¬ (p.key = true ∧ p.explicitKey = true)) :
    ((Descriptor.build rule type).allKeys.map (·.name)).Nodup := by
  have hstored := nodup_properties rule hnames
  rw [Descriptor.allKeys, List.map_append, List.nodup_append]
  refine ⟨hstored.sublist ((sublist_generatedKeys _).map _),
    hstored.sublist (List.filter_sublist.map _), ?_⟩
  intro name hgenerated other hexplicit hname
  obtain ⟨p, hp, rfl⟩ := List.mem_map.mp hgenerated
  obtain ⟨q, hq, rfl⟩ := List.mem_map.mp hexplicit
  obtain ⟨hqmem, hqexplicit⟩ := List.mem_filter.mp hq
  -- two stored properties of one name are the same, and it cannot be a key in both ways
  obtain rfl := List.inj_on_of_nodup_map hstored ((sublist_generatedKeys _).mem hp) hqmem hname
  refine not_explicitKey_of_mem_generatedKeys (fun p hp => ?_) hp hqexplicit
  exact hkeys p (List.mem_filter.mp hp).1

end Keys

/-! ### Values -/

/-- A record is that of an entity of a type: it has a content for each property of the type, in
their order. -/
def Record.Complete (record : Record) (type : EntityType) : Prop :=
  record.map (·.1) = type.properties.map (·.name)

theorem Record.get?_cons (name : String) (content : FieldValue) (rest : Record) (other : String) :
    Record.get? ((name, content) :: rest) other =
      if name = other then some content else Record.get? rest other := by
  unfold Record.get?
  rw [List.find?_cons]
  by_cases h : name = other
  · rw [if_pos h, h, beq_self_eq_true]
    rfl
  · rw [if_neg h, beq_false_of_ne h]

/-- The value of an entity for a property. -/
def Record.value? (record : Record) (property : String) : Option Value :=
  (record.get? property).map (·.toValue)

theorem Record.Complete.exists_value {record : Record} {type : EntityType}
    (h : record.Complete type) {p : Property} (hp : p ∈ type.properties) :
    ∃ v, record.value? p.name = some v := by
  have hname : p.name ∈ record.map (·.1) := by
    rw [h]
    exact List.mem_map_of_mem hp
  obtain ⟨entry, hentry, hname⟩ := List.mem_map.mp hname
  have hfound : (record.find? (·.1 == p.name)).isSome := by
    rw [List.find?_isSome]
    exact ⟨entry, hentry, by simpa using hname⟩
  obtain ⟨entry, hfind⟩ := Option.isSome_iff_exists.mp hfound
  exact ⟨entry.2.toValue, by rw [Record.value?, Record.get?, hfind]; rfl⟩

/-- The list that an entity lays out has its values for the properties that it provides. -/
theorem mem_values_iff {type : EntityType} {record : Record} {name : String} {v : Value} :
    (name, v) ∈ type.values record ↔ name ∈ type.provided ∧ record.value? name = some v := by
  unfold EntityType.values Record.value?
  rw [List.mem_filterMap]
  constructor
  · rintro ⟨other, hother, hentry⟩
    obtain ⟨content, hcontent, hsame⟩ := Option.map_eq_some_iff.mp hentry
    obtain ⟨rfl, rfl⟩ := Prod.mk.inj hsame
    exact ⟨hother, by rw [hcontent]; rfl⟩
  · rintro ⟨hname, hvalue⟩
    obtain ⟨content, hcontent, rfl⟩ := Option.map_eq_some_iff.mp hvalue
    exact ⟨name, hname, by rw [hcontent]; rfl⟩

/-- **An entity has its own value for each of any stored properties with different names.** -/
theorem exists_valuesOf {type : EntityType} {record : Record} {properties : List Property}
    (hrecord : record.Complete type)
    (hstored : ∀ p ∈ properties, p ∈ type.properties ∧ p.name ∈ type.provided)
    (hnames : (properties.map (·.name)).Nodup) :
    ∃ vs, type.valuesOf record properties = .ok vs ∧
      List.Forall₂ (fun p v => record.value? p.name = some v) properties vs := by
  refine exists_takeValues ⟨hnames, fun p hp => ?_⟩ fun p _ v hv => (mem_values_iff.mp hv).2
  obtain ⟨v, hv⟩ := hrecord.exists_value (hstored p hp).1
  exact List.mem_map.mpr ⟨_, mem_values_iff.mpr ⟨(hstored p hp).2, hv⟩, rfl⟩

/-! ### What statements ask for -/

/-- The lists of properties whose values a statement asks for. -/
inductive Descriptor.Asks (descriptor : Descriptor) : List Property → Prop where
  /-- An insert writes all properties that can be inserted. -/
  | insertable : descriptor.Asks descriptor.insertable
  /-- An update writes properties that can be updated: all of them, or those that changed. -/
  | updatable {properties : List Property} (h : properties.Sublist descriptor.updatable) :
      descriptor.Asks properties
  /-- A row is found by all keys. -/
  | allKeys : descriptor.Asks descriptor.allKeys

namespace Descriptor.Asks

variable {rule : TableRule} {type : EntityType} {properties : List Property}

theorem stored (h : (Descriptor.build rule type).Asks properties) :
    ∀ p ∈ properties, p ∈ (Descriptor.build rule type).properties := by
  intro p hp
  cases h with
  | insertable => exact (List.mem_filter.mp hp).1
  | updatable h => exact (List.mem_filter.mp (h.mem hp)).1
  | allKeys => exact mem_properties_of_mem_allKeys hp

theorem nodup (h : (Descriptor.build rule type).Asks properties)
    (hnames : (type.properties.map (·.name)).Nodup)
    (hkeys : ∀ p ∈ type.properties, ¬ (p.key = true ∧ p.explicitKey = true)) :
    (properties.map (·.name)).Nodup := by
  have hstored := nodup_properties rule hnames
  cases h with
  | insertable => exact hstored.sublist (List.filter_sublist.map _)
  | updatable h => exact hstored.sublist ((h.trans List.filter_sublist).map _)
  | allKeys => exact nodup_allKeys hnames hkeys

end Descriptor.Asks

/-- **An entity of a declared type has its own values for whatever a statement asks for.** -/
theorem Model.Describes.exists_valuesOf {declaration : Declaration} {model : Model}
    {type : EntityType} {record : Record} {rule : TableRule} {properties : List Property}
    (htype : model.Describes type) (hmodel : declaration.model = .ok model)
    (hnames : (declaration.fields.map fun field => Declaration.plainName field.name).Nodup)
    (hrecord : record.Complete type)
    (hasks : (Descriptor.build rule type).Asks properties) :
    ∃ vs, type.valuesOf record properties = .ok vs ∧
      List.Forall₂ (fun p v => record.value? p.name = some v) properties vs := by
  have hkeys := Declaration.not_both_keys hmodel
  rw [← Declaration.map_name_of_model hmodel] at hnames
  rw [← htype.properties] at hnames hkeys
  refine RowMapper.exists_valuesOf hrecord (fun p hp => ?_) (hasks.nodup hnames hkeys)
  have hp := hasks.stored p hp
  refine ⟨(List.mem_filter.mp hp).1, ?_⟩
  rw [htype.provided]
  refine List.mem_map_of_mem ?_
  rw [Model.stored, ← htype.properties]
  exact hp

end RowMapper
