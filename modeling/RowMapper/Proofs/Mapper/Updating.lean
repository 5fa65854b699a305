import RowMapper.Proofs.Entity.Picking
import RowMapper.Proofs.Mapper.Operation

/-!
# What an update sends

An update sends one statement or none, and which one does not depend on whether its text is
kept.

* `Mapper.updateQuery?` — the statement of an update, nothing, or the error in its place;
* `sends_updateColumns` — an update sends that statement and says whether a row was found;
* `TrackedAction.Tracks`, `tracks_updateTracked` — the update of a tracked entity, with the entity
  as it leaves it;
* `exists_content_of_valuesOf` — the values of a statement are those of the entity's properties.
-/

namespace RowMapper

open Sql

namespace Mapper

/-- The properties that an update writes: all that can be, or those of them that are named. -/
def writtenProperties (descriptor : Descriptor) (only : Option (List String)) : List Property :=
  match only with
  | none => descriptor.updatable
  | some names => descriptor.updatable.filter fun p => names.contains p.name

/-- The statement of an update, or nothing if there is nothing to write. -/
def updateQuery? (mapper : Mapper) (connection : String) (type : EntityType) (record : Record)
    (only : Option (List String)) : Except Error (Option Query) := do
  let descriptor := Descriptor.build mapper.tableRule type
  let dialect := mapper.dialectFor connection
  let keys ← descriptor.requireKeys "update"
  if descriptor.updatable.isEmpty then
    throw (.invalidOperation (.nothingToUpdate descriptor.entity))
  let columns := writtenProperties descriptor only
  if columns.isEmpty then
    return none
  let assigned ← type.valuesOf record columns
  let identifying ← type.valuesOf record keys
  some <$> Query.build dialect.style
    (updateOf dialect descriptor.table columns keys (assigned ++ identifying)).tokens

/-- What an update says about the answer of the connection. -/
def updated : Except String UInt64 → Except Error Bool
  | .ok affected => .ok (0 < affected)
  | .error message => .error (.database message)

end Mapper

theorem sublist_writtenProperties (descriptor : Descriptor) (only : Option (List String)) :
    (Mapper.writtenProperties descriptor only).Sublist descriptor.updatable := by
  cases only with
  | none => exact List.Sublist.refl _
  | some names => exact List.filter_sublist

/-- The dialogue of a statement that is sent if there is one. -/
def Dialogue.ofQuery? (mapper : Mapper) (cache : Cache) :
    Except Error (Option Query) → Dialogue (Except Error Bool × Cache)
  | .error e => .done (.error e, cache)
  | .ok none => .done (.ok false, cache)
  | .ok (some query) => .ask (.exec (mapper.statement query)) fun answer =>
      .done (Mapper.updated answer, cache)

namespace Action

variable {mapper : Mapper} {α : Type}

/-- On every valid cache an action sends a statement, if there is one, and leaves a valid cache
behind. -/
def Sends (mapper : Mapper) (action : Action Bool) (query? : Except Error (Option Query)) : Prop :=
  ∀ cache : Cache, cache.Valid mapper → ∃ cache' : Cache, cache'.Valid mapper ∧
    action.dialogue cache = .ofQuery? mapper cache' query?

namespace Sends

theorem pure : Sends mapper (pure false) (.ok none) :=
  fun cache hc => ⟨cache, hc, rfl⟩

theorem throw_bind (e : Error) (f : α → Action Bool) :
    Sends mapper ((MonadExcept.throw e : Action α) >>= f) (.error e) :=
  fun cache hc => ⟨cache, hc, rfl⟩

theorem lift_bind {x : Except Error α} {f : α → Action Bool}
    {g : α → Except Error (Option Query)} (h : ∀ a, x = .ok a → Sends mapper (f a) (g a)) :
    Sends mapper ((liftM x : Action α) >>= f) (x >>= g) := by
  cases x with
  | error e => exact fun cache hc => ⟨cache, hc, rfl⟩
  | ok a => exact h a rfl

theorem ite {p : Prop} [Decidable p] {x y : Action Bool} {a b : Except Error (Option Query)}
    (hx : Sends mapper x a) (hy : Sends mapper y b) :
    Sends mapper (if p then x else y) (if p then a else b) := by
  split
  · exact hx
  · exact hy

theorem describe {type : EntityType} {f : Descriptor → Action Bool}
    {g : Except Error (Option Query)}
    (h : Sends mapper (f (Descriptor.build mapper.tableRule type)) g) :
    Sends mapper (mapper.describe type >>= f) g := by
  intro cache hc
  obtain ⟨cache', hc', hdescribe⟩ := Transparent.dialogue_describe hc type
  rw [dialogue_bind, hdescribe]
  exact h cache' hc'

/-- A statement that is known, from wherever its text came. -/
theorem exec {x : Action Query} {query : Except Error Query}
    (h : ∀ cache : Cache, cache.Valid mapper → ∃ cache' : Cache, cache'.Valid mapper ∧
      x.dialogue cache = .done (query, cache')) :
    Sends mapper (do
      let query ← x
      return 0 < (← mapper.exec query)) (some <$> query) := by
  intro cache hc
  obtain ⟨cache', hc', hx⟩ := h cache hc
  refine ⟨cache', hc', ?_⟩
  rw [dialogue_bind, hx]
  cases query with
  | error e => rfl
  | ok query =>
      show Dialogue.ask _ _ = Dialogue.ask _ _
      congr 1
      funext (answer : Except String UInt64)
      cases answer <;> rfl

end Sends

/-- **An update sends its statement and says whether a row was found.** -/
theorem sends_updateColumns (connection : String) (type : EntityType) (record : Record)
    (only : Option (List String)) :
    Sends mapper (mapper.updateColumns connection type record only)
      (mapper.updateQuery? connection type record only) := by
  refine .describe (.lift_bind fun keys hkeys => ?_)
  refine .ite (.throw_bind _ _) (.ite .pure ?_)
  refine .lift_bind fun assigned hassigned => .lift_bind fun identifying hidentifying => ?_
  cases only with
  | none =>
      -- the text of a whole update is kept
      have hlength : (assigned ++ identifying).length =
          (Descriptor.build mapper.tableRule type).updatable.length + keys.length :=
        length_append_of_takeValues hassigned hidentifying
      have hquery (cache : Cache) (hc : cache.Valid mapper) :=
        Transparent.dialogue_cachedQuery hc (Mapper.template_update hkeys
          (mapper.dialectFor connection)) hlength
      exact Sends.exec hquery
  | some names =>
      exact Sends.exec (x := liftM (Query.build (mapper.dialectFor connection).style _))
        fun cache hc => ⟨cache, hc, rfl⟩

end Action

/-! ### Tracked entities -/

/-- On every valid cache an action on a tracked entity sends a statement, if there is one, and
leaves a valid cache behind.  It says whether a row was found, and the entity counts as stored then;
if it fails, the entity and its changes are as they were. -/
def TrackedAction.Tracks (mapper : Mapper) (action : TrackedAction Bool) (tracked : Tracked)
    (query? : Except Error (Option Query)) : Prop :=
  ∀ cache : Cache, cache.Valid mapper → ∃ cache' : Cache, cache'.Valid mapper ∧
    action.dialogue tracked cache = (Dialogue.ofQuery? mapper cache' query?).bind fun ending =>
      .done ((ending.1, tracked.after ending.1), ending.2)

/-- **The update of a tracked entity sends the statement of an update.** -/
theorem TrackedAction.tracks_updateTracked {mapper : Mapper} (connection : String)
    {tracked : Tracked} {only : Option (List String)} (h : tracked.dirty.only = some only) :
    Tracks mapper (mapper.updateTracked connection) tracked
      (mapper.updateQuery? connection tracked.type tracked.record only) := by
  intro cache hc
  obtain ⟨cache', hc', hsends⟩ :=
    Action.sends_updateColumns connection tracked.type tracked.record only cache hc
  refine ⟨cache', hc', ?_⟩
  rw [mapper.dialogue_updateTracked, h, ← hsends]

theorem transcript_updateTracked_of_clean {σ : Type} {mapper : Mapper} {tracked : Tracked}
    (h : tracked.dirty = .clean) (connection : String) (cache : Cache)
    (answer : (c : Call) → σ → c.Answer × σ) (s : σ) :
    ((mapper.updateTracked connection).dialogue tracked cache).transcript answer s =
      ([], ((.ok false, tracked), cache), s) := by
  rw [mapper.dialogue_updateTracked, h]
  rfl

/-- The run of an update of a tracked entity, by its statement. -/
theorem transcript_updateTracked {σ : Type} {mapper : Mapper} {cache : Cache} {tracked : Tracked}
    {only : Option (List String)} (hc : cache.Valid mapper) (connection : String)
    (h : tracked.dirty.only = some only) (answer : (c : Call) → σ → c.Answer × σ) (s : σ) :
    ∃ cache' : Cache, cache'.Valid mapper ∧
      ((mapper.updateTracked connection).dialogue tracked cache).transcript answer s =
        match mapper.updateQuery? connection tracked.type tracked.record only with
        | .error e => ([], ((.error e, tracked), cache'), s)
        | .ok none => ([], ((.ok false, tracked.markClean), cache'), s)
        | .ok (some query) =>
          let result := Mapper.updated (answer (.exec (mapper.statement query)) s).1
          ([.exec (mapper.statement query)], ((result, tracked.after result), cache'),
            (answer (.exec (mapper.statement query)) s).2) := by
  obtain ⟨cache', hc', hdialogue⟩ := TrackedAction.tracks_updateTracked connection h cache hc
  refine ⟨cache', hc', ?_⟩
  rw [hdialogue]
  cases mapper.updateQuery? connection tracked.type tracked.record only with
  | error e => rfl
  | ok query? => cases query? <;> rfl

/-! ### The values of an update -/

theorem zip_append_of_length {α β : Type} {as : List α} {bs : List β}
    (h : bs.length = as.length) (more : List β) : as.zip (bs ++ more) = as.zip bs := by
  induction as generalizing bs with
  | nil => simp
  | cons a as ih =>
      cases bs with
      | nil => cases h
      | cons b bs => exact congrArg ((a, b) :: ·) (ih (Nat.succ.inj h))

/-- The values that are taken for properties are those of the properties. -/
theorem exists_content_of_takeValues {record : Record} {entity : String}
    {values : List (String × Value)} {properties : List Property} {vs : List Value}
    (hvalues : ∀ entry ∈ values,
      ∃ content, record.get? entry.1 = some content ∧ entry.2 = content.toValue)
    (h : takeValues entity values properties = .ok vs) :
    ∀ entry ∈ properties.zip vs,
      ∃ content, record.get? entry.1.name = some content ∧ entry.2 = content.toValue := by
  induction properties generalizing values vs with
  | nil =>
      intro entry hentry
      cases hentry
  | cons property rest ih =>
      rw [takeValues] at h
      split at h
      · cases h
      · rename_i name v hfind
        obtain ⟨others, hothers, h⟩ := exists_of_bind_eq_ok h
        obtain rfl := Except.ok.inj h
        have hname : name = property.name := by simpa using List.find?_some hfind
        intro entry hentry
        rcases List.mem_cons.mp hentry with rfl | hentry
        · rw [← hname]
          exact hvalues _ (List.mem_of_find?_eq_some hfind)
        · exact ih (fun other hother => hvalues other (mem_of_mem_valuesLeft hfind hother)) hothers
            entry hentry

theorem exists_content_of_valuesOf {type : EntityType} {record : Record}
    {properties : List Property} {vs : List Value}
    (h : type.valuesOf record properties = .ok vs) :
    ∀ entry ∈ properties.zip vs,
      ∃ content, record.get? entry.1.name = some content ∧ entry.2 = content.toValue := by
  refine exists_content_of_takeValues (fun entry hentry => ?_) h
  obtain ⟨name, -, hname⟩ := List.mem_filterMap.mp hentry
  obtain ⟨content, hcontent, rfl⟩ := Option.map_eq_some_iff.mp hname
  exact ⟨content, hcontent, rfl⟩

namespace Mapper

variable {mapper : Mapper} {connection : String} {type : EntityType} {record : Record}
  {only : Option (List String)}

/-- If nothing is sent, there is no property to write. -/
theorem written_eq_nil_of_updateQuery?
    (h : mapper.updateQuery? connection type record only = .ok none) :
    writtenProperties (Descriptor.build mapper.tableRule type) only = [] := by
  obtain ⟨keys, -, h⟩ := exists_of_bind_eq_ok h
  split at h
  · cases h
  · dsimp only at h
    split at h
    · rename_i hempty
      simpa using hempty
    · obtain ⟨assigned, -, h⟩ := exists_of_bind_eq_ok h
      obtain ⟨identifying, -, h⟩ := exists_of_bind_eq_ok h
      obtain ⟨query, -, h⟩ := exists_of_map_eq_ok h
      cases h

/-- The statement that is sent has the values of the entity. -/
theorem exists_values_of_updateQuery? {query : Query}
    (h : mapper.updateQuery? connection type record only = .ok (some query)) :
    let descriptor := Descriptor.build mapper.tableRule type
    let columns := writtenProperties descriptor only
    columns ≠ [] ∧ ∃ assigned identifying,
      type.valuesOf record columns = .ok assigned ∧
      type.valuesOf record descriptor.allKeys = .ok identifying ∧
      Query.build (mapper.dialectFor connection).style
        (updateOf (mapper.dialectFor connection) descriptor.table columns descriptor.allKeys
          (assigned ++ identifying)).tokens = .ok query := by
  obtain ⟨keys, hkeys, h⟩ := exists_of_bind_eq_ok h
  obtain rfl := Descriptor.eq_allKeys_of_requireKeys hkeys
  split at h
  · cases h
  · dsimp only at h
    split at h
    · cases h
    · rename_i hempty
      obtain ⟨assigned, hassigned, h⟩ := exists_of_bind_eq_ok h
      obtain ⟨identifying, hidentifying, h⟩ := exists_of_bind_eq_ok h
      obtain ⟨built, hbuild, h⟩ := exists_of_map_eq_ok h
      obtain rfl := Option.some.inj h
      exact ⟨by simpa using hempty, assigned, identifying, hassigned, hidentifying, hbuild⟩

end Mapper

end RowMapper
