import RowMapper.Proofs.Declaration.Markers
import RowMapper.Proofs.Entity.Provision

/-!
# Which declarations are accepted

* `TypeMarker.Written`, `FieldMarker.Written` — the documented markers, as they are written;
* `declaredProperty`, `declared` — the property of a field and the model of a type, by the markers
  that they have: whether one occurs, and the last of several values;
* `Marked` — a declaration whose attributes list some markers;
* `Acceptable`, `model_eq_ok_iff` — what is asked of the markers, and that nothing else is;
* `Regrouped`, `SameMarkers` — the same markers in other attributes and in another order;
* `markers_accepted` — which declarations have a model, and which one.

### One marker after the other

The reader changes a property marker by marker, and looks at the keys when all attributes are read.
`foldl_apply_field` and `foldl_apply_type` say what the changes come to for any start, and only then
is the start the plain property.  The sort order is looked at last, since it may name any field.
-/

namespace RowMapper

namespace Declaration

/-! ### The documented markers -/

/-- The markers of types, as they are written. -/
inductive TypeMarker.Written : Marker → TypeMarker → Prop where
  | table (s spelling : String) :
    Written [.word "table", .mark '=', .text s spelling] (.table s)
  | defaultSort (s spelling : String) :
    Written [.word "default_sort", .mark '=', .text s spelling] (.defaultSort s)
  | interface : Written [.word "interface"] .interface

/-- The markers of fields, as they are written. -/
inductive FieldMarker.Written : Marker → FieldMarker → Prop where
  | key : Written [.word "key"] .key
  | explicitKey : Written [.word "explicit_key"] .explicitKey
  | computed : Written [.word "computed"] .computed
  | ignoreUpdate : Written [.word "ignore_update"] .ignoreUpdate
  | write (b : Bool) :
    Written [.word "write", .mark '=', .word (if b then "true" else "false")] (.write b)
  | column (s spelling : String) :
    Written [.word "column", .mark '=', .text s spelling] (.column s)

theorem TypeMarker.means_vocabulary_iff {marker : Marker} {meaning : TypeMarker} :
    Means vocabulary marker meaning ↔ Written marker meaning := by
  constructor
  · rintro ⟨name, form, literal, rfl, hform, hwrites⟩
    unfold vocabulary at hform
    split at hform <;> cases hform <;> cases hwrites <;> constructor
  · rintro (⟨s, spelling⟩ | ⟨s, spelling⟩ | _)
    · exact ⟨_, _, _, rfl, rfl, .text s spelling⟩
    · exact ⟨_, _, _, rfl, rfl, .text s spelling⟩
    · exact ⟨_, _, _, rfl, rfl, .flag⟩

theorem FieldMarker.means_vocabulary_iff {marker : Marker} {meaning : FieldMarker} :
    Means vocabulary marker meaning ↔ Written marker meaning := by
  constructor
  · rintro ⟨name, form, literal, rfl, hform, hwrites⟩
    unfold vocabulary at hform
    split at hform <;> cases hform <;> cases hwrites <;> constructor
  · rintro (_ | _ | _ | _ | b | ⟨s, spelling⟩)
    · exact ⟨_, _, _, rfl, rfl, .flag⟩
    · exact ⟨_, _, _, rfl, rfl, .flag⟩
    · exact ⟨_, _, _, rfl, rfl, .flag⟩
    · exact ⟨_, _, _, rfl, rfl, .flag⟩
    · exact ⟨_, _, _, rfl, rfl, .bool b⟩
    · exact ⟨_, _, _, rfl, rfl, .text s spelling⟩

/-! ### What markers say together -/

/-- The text that a marker gives to a name. -/
def Marker.text? (name : String) : Marker → Option String
  | [.word word, .mark '=', .text s _] => if word = name then some s else none
  | _ => none

/-- The truth value that a marker gives to a name. -/
def Marker.bool? (name : String) : Marker → Option Bool
  | [.word word, .mark '=', .word b] =>
    if word = name then
      if b = "true" then some true else if b = "false" then some false else none
    else none
  | _ => none

/-- The last of the values that some markers have. -/
def lastOf? {α : Type} (value? : Marker → Option α) (markers : List Marker) : Option α :=
  (markers.filterMap value?).getLast?

/-- The property of a field with some markers. -/
def declaredProperty (field : FieldDeclaration) (markers : List Marker) : Property where
  name := plainName field.name
  column := (lastOf? (Marker.text? "column") markers).getD (plainName field.name)
  typeText := TypeText.ofSource field.typeText
  key := [.word "key"] ∈ markers
  explicitKey := [.word "explicit_key"] ∈ markers
  computed := [.word "computed"] ∈ markers
  ignoreUpdate := [.word "ignore_update"] ∈ markers
  write := (lastOf? (Marker.bool? "write") markers).getD true

/-- The model of a declaration with some markers. -/
def declared (declaration : Declaration) (typeMarkers : List Marker)
    (fieldMarkers : FieldDeclaration → List Marker) : Model where
  name := typeName declaration.name
  table := lastOf? (Marker.text? "table") typeMarkers
  defaultSort := lastOf? (Marker.text? "default_sort") typeMarkers
  interface := [.word "interface"] ∈ typeMarkers
  properties := declaration.fields.map fun field => declaredProperty field (fieldMarkers field)

theorem lastOf?_nil {α : Type} (value? : Marker → Option α) : lastOf? value? [] = none := rfl

theorem lastOf?_cons {α : Type} (value? : Marker → Option α) (marker : Marker)
    (markers : List Marker) :
    lastOf? value? (marker :: markers) = (lastOf? value? markers).or (value? marker) := by
  unfold lastOf?
  cases hvalue : value? marker with
  | none => simp [hvalue]
  | some a =>
      rw [List.filterMap_cons_some hvalue, List.getLast?_cons]
      cases (markers.filterMap value?).getLast? <;> rfl

/-- The property after some markers, by what it was before them. -/
def marked (p : Property) (markers : List Marker) : Property where
  name := p.name
  column := (lastOf? (Marker.text? "column") markers).getD p.column
  typeText := p.typeText
  key := p.key || [.word "key"] ∈ markers
  explicitKey := p.explicitKey || [.word "explicit_key"] ∈ markers
  computed := p.computed || [.word "computed"] ∈ markers
  ignoreUpdate := p.ignoreUpdate || [.word "ignore_update"] ∈ markers
  write := (lastOf? (Marker.bool? "write") markers).getD p.write

theorem foldl_apply_field {markers : List Marker} {meanings : List FieldMarker}
    (h : List.Forall₂ FieldMarker.Written markers meanings) (p : Property) :
    meanings.foldl FieldMarker.apply p = marked p markers := by
  induction h generalizing p with
  | nil => simp [marked, lastOf?_nil]
  | @cons marker meaning markers meanings hmarker _ ih =>
      rw [List.foldl_cons, ih]
      rcases hmarker with _ | _ | _ | _ | ⟨_ | _⟩ | ⟨s, spelling⟩ <;>
        simp [marked, FieldMarker.apply, lastOf?_cons, Marker.text?, Marker.bool?]

theorem foldl_apply_type {markers : List Marker} {meanings : List TypeMarker}
    (h : List.Forall₂ TypeMarker.Written markers meanings) (model : Model) :
    meanings.foldl TypeMarker.apply model = { model with
      table := (lastOf? (Marker.text? "table") markers).or model.table
      defaultSort := (lastOf? (Marker.text? "default_sort") markers).or model.defaultSort
      interface := model.interface || [.word "interface"] ∈ markers } := by
  induction h generalizing model with
  | nil => simp [lastOf?_nil]
  | @cons marker meaning markers meanings hmarker _ ih =>
      rw [List.foldl_cons, ih]
      rcases hmarker with ⟨s, spelling⟩ | ⟨s, spelling⟩ | _ <;>
        simp [TypeMarker.apply, lastOf?_cons, Marker.text?]

/-! ### What is accepted -/

/-- The sources of a declaration have tokens, and its attributes are lists of markers, or not for
entities. -/
structure Marked (declaration : Declaration) (typeMarkers : List Marker)
    (fieldMarkers : FieldDeclaration → List Marker) : Prop where
  readable : ∀ source ∈ declaration.sources, (Token.scan? source).isSome = true
  onType : ListAll (declaration.attributes.map (·.tokens)) typeMarkers
  onFields : ∀ field ∈ declaration.fields, ListAll (fieldAttributes field) (fieldMarkers field)

/-- What is asked of the markers of a field: each is documented, and the two kinds of keys exclude
each other. -/
structure AcceptableField (markers : List Marker) : Prop where
  documented : ∀ marker ∈ markers, ∃ meaning, FieldMarker.Written marker meaning
  oneKey : ¬ ([.word "key"] ∈ markers ∧ [.word "explicit_key"] ∈ markers)

/-- What is asked of a declaration with some markers. -/
structure Acceptable (declaration : Declaration) (typeMarkers : List Marker)
    (fieldMarkers : FieldDeclaration → List Marker) : Prop where
  shape : declaration.shape = .struct
  documented : ∀ marker ∈ typeMarkers, ∃ meaning, TypeMarker.Written marker meaning
  fields : ∀ field ∈ declaration.fields, AcceptableField (fieldMarkers field)
  /-- The last sort order is a field; those before it are not looked at. -/
  sorted : ∀ sort, lastOf? (Marker.text? "default_sort") typeMarkers = some sort →
    ∃ field ∈ declaration.fields, plainName field.name = sort

/-- Each element of a list has a partner if there is a list of partners. -/
theorem exists_forall₂_iff {α β : Type} {R : α → β → Prop} {as : List α} :
    (∃ bs, List.Forall₂ R as bs) ↔ ∀ a ∈ as, ∃ b, R a b := by
  induction as with
  | nil => simp
  | cons a as ih =>
      rw [List.forall_mem_cons, ← ih]
      constructor
      · rintro ⟨_, _ | ⟨hb, hbs⟩⟩
        exact ⟨⟨_, hb⟩, _, hbs⟩
      · rintro ⟨⟨b, hb⟩, bs, hbs⟩
        exact ⟨b :: bs, .cons hb hbs⟩

theorem marked_plainProperty (field : FieldDeclaration) (markers : List Marker) :
    marked (plainProperty field) markers = declaredProperty field markers := by
  simp [marked, plainProperty, declaredProperty]

/-- The property of a field, once its markers are read. -/
theorem property_eq {field : FieldDeclaration} {markers : List Marker}
    {groups : List (List FieldMarker)}
    (hgroups : (fieldAttributes field).mapM
      (readAttribute FieldMarker.vocabulary .unsupportedFieldMarker) = .ok groups)
    (h : List.Forall₂ FieldMarker.Written markers groups.flatten) :
    property field =
      if [.word "key"] ∈ markers ∧ [.word "explicit_key"] ∈ markers then .error .keyConflict
      else .ok (declaredProperty field markers) := by
  unfold property
  rw [hgroups]
  show (if _ then _ else _) = _
  simp only [foldl_apply_field h, marked_plainProperty]
  simp only [declaredProperty, Bool.and_eq_true, decide_eq_true_iff]
  rfl

/-- **A field has a property if its markers are acceptable.** -/
theorem property_eq_ok_iff {field : FieldDeclaration} {markers : List Marker}
    (h : ListAll (fieldAttributes field) markers) {p : Property} :
    property field = .ok p ↔ AcceptableField markers ∧ p = declaredProperty field markers := by
  constructor
  · intro hp
    obtain ⟨groups, hgroups, -⟩ := exists_of_bind_eq_ok hp
    have hwritten : List.Forall₂ FieldMarker.Written markers groups.flatten :=
      ((mapM_readAttribute_eq_ok_iff h).mp ⟨groups, hgroups, rfl⟩).imp
        fun _ _ => FieldMarker.means_vocabulary_iff.mp
    rw [property_eq hgroups hwritten] at hp
    split at hp
    · cases hp
    · next hone => exact ⟨⟨exists_forall₂_iff.mp ⟨_, hwritten⟩, hone⟩, (Except.ok.inj hp).symm⟩
  · rintro ⟨⟨hdocumented, hone⟩, rfl⟩
    obtain ⟨meanings, hwritten⟩ := exists_forall₂_iff.mpr hdocumented
    obtain ⟨groups, hgroups, rfl⟩ := (mapM_readAttribute_eq_ok_iff h).mpr
      (hwritten.imp fun _ _ => FieldMarker.means_vocabulary_iff.mpr)
    rw [property_eq hgroups hwritten, if_neg hone]

/-- A model, if its sort order is one of its properties or there is none. -/
def sortChecked (model : Model) : Except Fault Model :=
  match model.defaultSort with
  | none => .ok model
  | some sort => if model.properties.any (·.name == sort) then .ok model else .error .unknownSort

theorem sortChecked_eq_ok_iff {model other : Model} :
    sortChecked model = .ok other ↔
      (∀ sort, model.defaultSort = some sort → ∃ p ∈ model.properties, p.name = sort) ∧
        other = model := by
  unfold sortChecked
  cases model.defaultSort with
  | none => simpa using eq_comm
  | some sort =>
      have hany : (model.properties.any (·.name == sort)) = true ↔
          ∃ p ∈ model.properties, p.name = sort := by simp
      dsimp only
      split
      · next hfound => simpa [← hany, hfound] using eq_comm
      · next hlost => exact ⟨nofun, fun h => absurd (hany.mpr (h.1 sort rfl)) hlost⟩

/-- The model of a structure whose markers and fields are read. -/
theorem model_eq {declaration : Declaration} {markers : List Marker}
    {fieldMarkers : FieldDeclaration → List Marker} {groups : List (List TypeMarker)}
    (hreadable : ∀ source ∈ declaration.sources, (Token.scan? source).isSome = true)
    (hshape : declaration.shape = .struct)
    (hgroups : (declaration.attributes.mapM fun attr =>
      readAttribute TypeMarker.vocabulary .unsupportedTypeMarker attr.tokens) = .ok groups)
    (h : List.Forall₂ TypeMarker.Written markers groups.flatten)
    (hfields : declaration.fields.mapM property = .ok (declaration.fields.map fun field =>
      declaredProperty field (fieldMarkers field))) :
    declaration.model = sortChecked (declaration.declared markers fieldMarkers) := by
  have hall : (declaration.sources.all fun source => (Token.scan? source).isSome) = true :=
    List.all_eq_true.mpr hreadable
  have hfold : groups.flatten.foldl TypeMarker.apply
      ⟨typeName declaration.name, none, none, false, declaration.fields.map fun field =>
        declaredProperty field (fieldMarkers field)⟩ =
          declaration.declared markers fieldMarkers := by
    simp [foldl_apply_type h, declared]
  unfold Declaration.model
  rw [hall, hshape]
  show (_ >>= fun markers => declaration.fields.mapM property >>= _) = _
  rw [hgroups, hfields]
  show (match (List.foldl TypeMarker.apply _ _).defaultSort with | none => _ | some sort => _) = _
  rw [hfold]
  rfl

/-- **A declaration has a model if its markers are acceptable.** -/
theorem model_eq_ok_iff {declaration : Declaration} {typeMarkers : List Marker}
    {fieldMarkers : FieldDeclaration → List Marker}
    (h : declaration.Marked typeMarkers fieldMarkers) {model : Model} :
    declaration.model = .ok model ↔
      declaration.Acceptable typeMarkers fieldMarkers ∧
        model = declaration.declared typeMarkers fieldMarkers := by
  have hfields (hall : ∀ field ∈ declaration.fields, AcceptableField (fieldMarkers field)) :
      declaration.fields.mapM property = .ok (declaration.fields.map fun field =>
        declaredProperty field (fieldMarkers field)) :=
    mapM_eq_ok_map fun field hfield =>
      (property_eq_ok_iff (h.onFields field hfield)).mpr ⟨hall field hfield, rfl⟩
  constructor
  · intro hmodel
    obtain ⟨hshape, ⟨groups, hgroups⟩, hproperties⟩ := exists_of_model hmodel
    have hwritten : List.Forall₂ TypeMarker.Written typeMarkers groups.flatten :=
      ((mapM_readAttribute_eq_ok_iff h.onType).mp ⟨groups, List.mapM_map.trans hgroups, rfl⟩).imp
        fun _ _ => TypeMarker.means_vocabulary_iff.mp
    have hall : ∀ field ∈ declaration.fields, AcceptableField (fieldMarkers field) := by
      intro field hfield
      obtain ⟨p, -, hp⟩ := (mem_of_mapM_eq_ok hproperties).2 field hfield
      exact ((property_eq_ok_iff (h.onFields field hfield)).mp hp).1
    rw [model_eq h.readable hshape hgroups hwritten (hfields hall), sortChecked_eq_ok_iff] at hmodel
    refine ⟨⟨hshape, exists_forall₂_iff.mp ⟨_, hwritten⟩, hall, fun sort hsort => ?_⟩, hmodel.2⟩
    simpa [declared, declaredProperty] using hmodel.1 sort hsort
  · rintro ⟨⟨hshape, hdocumented, hall, hsorted⟩, rfl⟩
    obtain ⟨meanings, hwritten⟩ := exists_forall₂_iff.mpr hdocumented
    obtain ⟨groups, hgroups, rfl⟩ := (mapM_readAttribute_eq_ok_iff h.onType).mpr
      (hwritten.imp fun _ _ => TypeMarker.means_vocabulary_iff.mpr)
    rw [List.mapM_map] at hgroups
    rw [model_eq h.readable hshape hgroups hwritten (hfields hall), sortChecked_eq_ok_iff]
    refine ⟨fun sort hsort => ?_, rfl⟩
    simpa [declared, declaredProperty] using hsorted sort hsort

/-! ### Grouping -/

/-- Whether a marker gives a value to a name. -/
def Marker.assigns (name : String) : Marker → Bool
  | .word word :: .mark '=' :: _ => word = name
  | _ => false

/-- Markers in another order, in which those that give values to one name follow each other as
before. -/
structure Regrouped (markers others : List Marker) : Prop where
  perm : others.Perm markers
  order : ∀ name, others.filter (Marker.assigns name) = markers.filter (Marker.assigns name)

/-- The same field with the same markers, in whatever attributes these stand. -/
structure SameField (markers others : List Marker) (field other : FieldDeclaration) : Prop where
  name : plainName other.name = plainName field.name
  typeText : TypeText.ofSource other.typeText = TypeText.ofSource field.typeText
  markers : Regrouped markers others

/-- The same declaration with the same markers, in whatever attributes these stand. -/
structure SameMarkers (declaration other : Declaration) (typeMarkers otherType : List Marker)
    (fieldMarkers otherFields : FieldDeclaration → List Marker) : Prop where
  shape : other.shape = declaration.shape
  name : typeName other.name = typeName declaration.name
  onType : Regrouped typeMarkers otherType
  onFields : List.Forall₂ (fun field other =>
    SameField (fieldMarkers field) (otherFields other) field other) declaration.fields other.fields

section Regrouped

variable {markers others : List Marker}

theorem lastOf?_filter {α : Type} {value? : Marker → Option α} {name : String}
    (h : ∀ marker a, value? marker = some a → marker.assigns name = true)
    (markers : List Marker) :
    lastOf? value? (markers.filter (Marker.assigns name)) = lastOf? value? markers := by
  unfold lastOf?
  rw [List.filterMap_filter]
  congr 2
  funext marker
  cases hvalue : value? marker with
  | none => simp
  | some a => simp [h marker a hvalue]

theorem Marker.assigns_of_text? {name : String} (marker : Marker) (s : String)
    (h : marker.text? name = some s) : marker.assigns name = true := by
  unfold Marker.text? at h
  split at h
  · next word s' spelling =>
      split at h
      · simpa [Marker.assigns]
      · cases h
  · cases h

theorem Marker.assigns_of_bool? {name : String} (marker : Marker) (b : Bool)
    (h : marker.bool? name = some b) : marker.assigns name = true := by
  unfold Marker.bool? at h
  split at h
  · next word b' =>
      split at h
      · simpa [Marker.assigns]
      · cases h
  · cases h

theorem Regrouped.lastOf?_text? (h : Regrouped markers others) (name : String) :
    lastOf? (Marker.text? name) others = lastOf? (Marker.text? name) markers := by
  rw [← lastOf?_filter Marker.assigns_of_text? others, h.order,
    lastOf?_filter Marker.assigns_of_text?]

theorem Regrouped.lastOf?_bool? (h : Regrouped markers others) (name : String) :
    lastOf? (Marker.bool? name) others = lastOf? (Marker.bool? name) markers := by
  rw [← lastOf?_filter Marker.assigns_of_bool? others, h.order,
    lastOf?_filter Marker.assigns_of_bool?]

theorem Regrouped.acceptableField_iff (h : Regrouped markers others) :
    AcceptableField others ↔ AcceptableField markers := by
  have hmem (marker : Marker) : marker ∈ others ↔ marker ∈ markers := h.perm.mem_iff
  constructor
  · rintro ⟨hdocumented, hone⟩
    simp only [hmem] at hdocumented hone
    exact ⟨hdocumented, hone⟩
  · rintro ⟨hdocumented, hone⟩
    simp only [← hmem] at hdocumented hone
    exact ⟨hdocumented, hone⟩

theorem SameField.declaredProperty_eq {field other : FieldDeclaration}
    (h : SameField markers others field other) :
    declaredProperty other others = declaredProperty field markers := by
  have hmem (marker : Marker) : marker ∈ others ↔ marker ∈ markers := h.markers.perm.mem_iff
  simp only [declaredProperty, h.markers.lastOf?_text?, h.markers.lastOf?_bool?, h.name, h.typeText,
    hmem]

end Regrouped

namespace SameMarkers

variable {declaration other : Declaration} {typeMarkers otherType : List Marker}
  {fieldMarkers otherFields : FieldDeclaration → List Marker}

theorem forall_acceptableField_iff
    (h : declaration.SameMarkers other typeMarkers otherType fieldMarkers otherFields) :
    (∀ field ∈ other.fields, AcceptableField (otherFields field)) ↔
      ∀ field ∈ declaration.fields, AcceptableField (fieldMarkers field) := by
  have hfields := h.onFields
  generalize declaration.fields = fields at hfields
  generalize other.fields = others at hfields
  induction hfields with
  | nil => simp
  | cons hfield _ ih =>
      rw [List.forall_mem_cons, List.forall_mem_cons]
      exact and_congr hfield.markers.acceptableField_iff ih

theorem map_fields_eq {α : Type}
    (h : declaration.SameMarkers other typeMarkers otherType fieldMarkers otherFields)
    {f g : FieldDeclaration → α} (hfg : ∀ field other,
      SameField (fieldMarkers field) (otherFields other) field other → g other = f field) :
    other.fields.map g = declaration.fields.map f := by
  have hfields := h.onFields
  generalize declaration.fields = fields at hfields
  generalize other.fields = others at hfields
  induction hfields with
  | nil => rfl
  | @cons field other fields others hfield _ ih =>
      rw [List.map_cons, List.map_cons, hfg field other hfield, ih]

theorem declared_eq
    (h : declaration.SameMarkers other typeMarkers otherType fieldMarkers otherFields) :
    other.declared otherType otherFields = declaration.declared typeMarkers fieldMarkers := by
  have hproperties := h.map_fields_eq fun field other hfield => hfield.declaredProperty_eq
  have hmem : [Token.word "interface"] ∈ otherType ↔ [Token.word "interface"] ∈ typeMarkers :=
    h.onType.perm.mem_iff
  simp only [declared, h.name, h.onType.lastOf?_text?, hmem, hproperties]

theorem acceptable_iff
    (h : declaration.SameMarkers other typeMarkers otherType fieldMarkers otherFields) :
    other.Acceptable otherType otherFields ↔ declaration.Acceptable typeMarkers fieldMarkers := by
  have hfields := h.forall_acceptableField_iff
  have hnames : other.fields.map (fun field => plainName field.name) =
      declaration.fields.map fun field => plainName field.name :=
    h.map_fields_eq fun field other hfield => hfield.name
  have hsort (sort : String) : (∃ field ∈ other.fields, plainName field.name = sort) ↔
      ∃ field ∈ declaration.fields, plainName field.name = sort := by
    rw [← List.mem_map, hnames, List.mem_map]
  have hmem (marker : Marker) : marker ∈ otherType ↔ marker ∈ typeMarkers :=
    h.onType.perm.mem_iff
  constructor
  · rintro ⟨hshape, hdocumented, hall, hsorted⟩
    simp only [hmem, h.onType.lastOf?_text?, hsort] at hdocumented hsorted
    exact ⟨h.shape ▸ hshape, hdocumented, hfields.mp hall, hsorted⟩
  · rintro ⟨hshape, hdocumented, hall, hsorted⟩
    simp only [← hmem, ← h.onType.lastOf?_text?, ← hsort] at hdocumented hsorted
    exact ⟨h.shape.trans hshape, hdocumented, hfields.mpr hall, hsorted⟩

end SameMarkers

/-- **Exactly the documented markers are accepted, however they are grouped.**  Take a declaration
whose attributes for entities are lists of markers (`Declaration.Marked`).  It has a model exactly
if it is `Acceptable`: a structure with named fields, all of its markers documented ones with the
literals that these want, no field a key in both ways, and the last sort order a field.  The model
is then read off the markers (`Declaration.declared`): a flag is set if its marker occurs, and of
several markers with a value the last one counts.  A declaration of the same fields with the same
markers, in whatever attributes and in whatever order as long as the values of one name follow each
other as before (`SameMarkers`), has the same model or has none either. -/
theorem markers_accepted {declaration : Declaration} {typeMarkers : List Marker}
    {fieldMarkers : FieldDeclaration → List Marker}
    (h : declaration.Marked typeMarkers fieldMarkers) :
    ((∃ model, declaration.model = .ok model) ↔
        declaration.Acceptable typeMarkers fieldMarkers) ∧
      (∀ model, declaration.model = .ok model →
        model = declaration.declared typeMarkers fieldMarkers) ∧
      ∀ {other : Declaration} {otherType : List Marker}
        {otherFields : FieldDeclaration → List Marker}, other.Marked otherType otherFields →
        declaration.SameMarkers other typeMarkers otherType fieldMarkers otherFields →
        ∀ model, other.model = .ok model ↔ declaration.model = .ok model := by
  refine ⟨?_, fun model hmodel => ((model_eq_ok_iff h).mp hmodel).2, ?_⟩
  · simp only [model_eq_ok_iff h, exists_and_left, exists_eq, and_true]
  · intro other otherType otherFields hother hsame model
    rw [model_eq_ok_iff hother, model_eq_ok_iff h, hsame.acceptable_iff, hsame.declared_eq]

end Declaration

/-! ### A ledger -/

namespace Sample

open Declaration

/-- Entries of a ledger, with markers in several attributes. -/
def ledger : Declaration :=
  ⟨.struct, "Ledger",
    [.source "entity(table=\"a\",)", .source "doc=\"entity\"",
      .markers [("default_sort", some (.text "id")), ("table", some (.text "b"))]],
    [⟨"#[entity(key)] id", "i64", []⟩,
      ⟨"title", "String",
        [.markers [("column", some (.text "t")), ("write", some (.bool false))],
          .source "entity[write=true]"]⟩]⟩

/-- The same entries, with all markers in one attribute each. -/
def mergedLedger : Declaration :=
  ⟨.struct, "Ledger",
    [.markers [("default_sort", some (.text "id")), ("table", some (.text "a")),
      ("table", some (.text "b"))]],
    [⟨"id", "i64", [.markers [("key", none)]]⟩,
      ⟨"title", "String",
        [.markers [("write", some (.bool false)), ("column", some (.text "t")),
          ("write", some (.bool true))]]⟩]⟩

/-- The model of a ledger. -/
def ledgerModel : Model :=
  ⟨"Ledger", some "b", some "id", false,
    [⟨"id", "id", "i64", true, false, false, false, true⟩,
      ⟨"title", "t", "String", false, false, false, false, true⟩]⟩

theorem model_ledger : ledger.model = .ok ledgerModel := by
  decide +kernel

/-- A marker with a text. -/
def assigned (name s spelling : String) : Marker := [.word name, .mark '=', .text s spelling]

/-- A marker with a truth value. -/
def written (b : Bool) : Marker := [.word "write", .mark '=', .word (if b then "true" else "false")]

/-- The markers of a ledger. -/
def ledgerMarkers : List Marker :=
  [assigned "table" "a" "\"a\"", assigned "default_sort" "id" "\"id\"",
    assigned "table" "b" "\"b\""]

/-- The markers of the fields of a ledger. -/
def ledgerFieldMarkers (field : FieldDeclaration) : List Marker :=
  if field.typeText = "i64" then [[.word "key"]]
  else [assigned "column" "t" "\"t\"", written false, written true]

/-- The markers of a ledger in the other order. -/
def mergedMarkers : List Marker :=
  [assigned "default_sort" "id" "\"id\"", assigned "table" "a" "\"a\"",
    assigned "table" "b" "\"b\""]

/-- The markers of the fields of a ledger in the other order. -/
def mergedFieldMarkers (field : FieldDeclaration) : List Marker :=
  if field.typeText = "i64" then [[.word "key"]]
  else [written false, assigned "column" "t" "\"t\"", written true]

theorem ledger_marked : ledger.Marked ledgerMarkers ledgerFieldMarkers where
  readable := by decide +kernel
  onType := by
    have htokens : ledger.attributes.map (·.tokens) =
        [.word "entity" :: .mark '(' :: ([.mark ','].intercalate
            [assigned "table" "a" "\"a\""] ++ [.mark ','] ++ [.mark ')']),
          [.word "doc", .mark '=', .text "entity" "\"entity\""],
          .word "entity" :: .mark '(' :: ([.mark ','].intercalate
            [assigned "default_sort" "id" "\"id\"", assigned "table" "b" "\"b\""] ++ [] ++
              [.mark ')'])] := by
      decide +kernel
    rw [htokens]
    refine .cons (.of_comma_not_mem rfl (.inr ⟨by simp, rfl⟩) (by decide +kernel)) ?_
    exact .cons (.foreign (by simp))
      (.cons (.of_comma_not_mem rfl (.inl rfl) (by decide +kernel)) .nil)
  onFields := by
    intro field hfield
    simp only [ledger, List.mem_cons, List.not_mem_nil, or_false] at hfield
    rcases hfield with rfl | rfl
    · have htokens : fieldAttributes ⟨"#[entity(key)] id", "i64", []⟩ =
          [.word "entity" :: .mark '(' ::
            ([.mark ','].intercalate [[.word "key"]] ++ [] ++ [.mark ')'])] := by
        decide +kernel
      rw [htokens]
      exact .cons (.of_comma_not_mem rfl (.inl rfl) (by decide +kernel)) .nil
    · have htokens : fieldAttributes ⟨"title", "String",
          [.markers [("column", some (.text "t")), ("write", some (.bool false))],
            .source "entity[write=true]"]⟩ =
          [.word "entity" :: .mark '(' :: ([.mark ','].intercalate
              [assigned "column" "t" "\"t\"", written false] ++ [] ++ [.mark ')']),
            .word "entity" :: .mark '[' :: ([.mark ','].intercalate
              [written true] ++ [] ++ [.mark ']'])] := by
        decide +kernel
      rw [htokens]
      exact .cons (.of_comma_not_mem rfl (.inl rfl) (by decide +kernel))
        (.cons (.of_comma_not_mem rfl (.inl rfl) (by decide +kernel)) .nil)

theorem mergedLedger_marked : mergedLedger.Marked mergedMarkers mergedFieldMarkers where
  readable := by decide +kernel
  onType := by
    have htokens : mergedLedger.attributes.map (·.tokens) =
        [.word "entity" :: .mark '(' ::
          ([.mark ','].intercalate mergedMarkers ++ [] ++ [.mark ')'])] := by
      decide +kernel
    rw [htokens]
    exact .cons (.of_comma_not_mem rfl (.inl rfl) (by decide +kernel)) .nil
  onFields := by
    have htokens : ∀ field ∈ mergedLedger.fields, fieldAttributes field =
        [.word "entity" :: .mark '(' ::
          ([.mark ','].intercalate (mergedFieldMarkers field) ++ [] ++ [.mark ')'])] ∧
        ∀ marker ∈ mergedFieldMarkers field,
          marker ≠ [] ∧ Token.balanced [] marker = true ∧ Token.mark ',' ∉ marker := by
      decide +kernel
    intro field hfield
    obtain ⟨hattributes, hmarkers⟩ := htokens field hfield
    have hlists : ListAll (fieldAttributes field) (mergedFieldMarkers field ++ []) := by
      rw [hattributes]
      exact .cons (.of_comma_not_mem rfl (.inl rfl) hmarkers) .nil
    rwa [List.append_nil] at hlists

/-- The merged markers of one name follow each other as before. -/
theorem sameMarkers_ledger : ledger.SameMarkers mergedLedger ledgerMarkers mergedMarkers
    ledgerFieldMarkers mergedFieldMarkers where
  shape := rfl
  name := rfl
  onType := ⟨by decide +kernel, fun name => by
    by_cases htable : "table" = name
    · subst htable
      rfl
    · simp [ledgerMarkers, mergedMarkers, assigned, List.filter_cons, Marker.assigns, htable]⟩
  onFields := by
    refine .cons ⟨by decide +kernel, by decide +kernel, .refl _, fun _ => rfl⟩
      (.cons ⟨by decide +kernel, by decide +kernel, by decide +kernel, fun name => ?_⟩ .nil)
    by_cases hcolumn : "column" = name
    · subst hcolumn
      decide +kernel
    · simp [ledgerFieldMarkers, mergedFieldMarkers, assigned, written, List.filter_cons,
        Marker.assigns, hcolumn]

end Sample

/-- A ledger is accepted, and with merged markers it has the same model. -/
theorem markers_accepted_ledger :
    Sample.ledger.Acceptable Sample.ledgerMarkers Sample.ledgerFieldMarkers ∧
      Sample.ledgerModel =
        Sample.ledger.declared Sample.ledgerMarkers Sample.ledgerFieldMarkers ∧
      Sample.mergedLedger.model = .ok Sample.ledgerModel := by
  obtain ⟨haccepted, hdeclared, hsame⟩ := Declaration.markers_accepted Sample.ledger_marked
  exact ⟨haccepted.mp ⟨_, Sample.model_ledger⟩, hdeclared _ Sample.model_ledger,
    (hsame Sample.mergedLedger_marked Sample.sameMarkers_ledger _).mpr Sample.model_ledger⟩

end RowMapper
