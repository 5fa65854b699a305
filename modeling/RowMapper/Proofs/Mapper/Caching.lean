import RowMapper.Mapper.Insert
import RowMapper.Mapper.Selection
import RowMapper.Mapper.Update
import RowMapper.Proofs.Dialogue
import RowMapper.Proofs.Mapper.Template
import RowMapper.Proofs.Outcome

/-!
# The cache makes no difference

What a mapper keeps is what it would work out again.

* `Cache.Valid` — every descriptor is that of its type, and every text that of its template,
  whatever values it is paired with;
* `Action.dialogue`, `Action.on`, `Action.Always` — an action as a dialogue, on a connection, and
  whatever is answered;
* `TrackedAction.dialogue`, `Mapper.dialogue_updateTracked` — an action on a tracked entity as a
  dialogue, which ends with the entity as it is then, and the one that writes its changes;
* `Action.Same` — on any two valid caches two actions send the same calls and end in the same way,
  and they leave valid caches behind;
* `Action.Transparent` — an action is the same as itself, in this sense;
* `Transparent.bind` and its companions — actions put together from transparent ones are
  transparent.

### Where the cache is looked at

Only `Mapper.describe` and `Mapper.cachedQuery` read or write it.  What they do on a valid cache is
said by `dialogue_describe` and `dialogue_cachedQuery`, and these two carry every argument about
valid caches.
-/

namespace RowMapper

open Sql

/-- A cache of a mapper with nothing wrong in it. -/
structure Cache.Valid (mapper : Mapper) (cache : Cache) : Prop where
  descriptor : ∀ entry ∈ cache.descriptors,
    entry.2 = Descriptor.build mapper.tableRule entry.1
  statement : ∀ entry ∈ cache.statements, ∃ template, mapper.template entry.1 = .ok template ∧
    ∀ vs, vs.length = template.arity →
      entry.2 = entry.1.dialect.style.write (template.tokens vs)

namespace Cache

variable {mapper : Mapper} {cache : Cache}

/-- A new mapper keeps nothing. -/
theorem valid_empty : Valid mapper .empty := by
  constructor <;> intro entry hentry <;> cases hentry

theorem Valid.descriptor?_eq (h : Valid mapper cache) {type : EntityType} {d : Descriptor}
    (hd : cache.descriptor? type = some d) : d = Descriptor.build mapper.tableRule type := by
  obtain ⟨entry, hfind, rfl⟩ := Option.map_eq_some_iff.mp hd
  have htype : entry.1 = type := by simpa using List.find?_some hfind
  rw [h.descriptor entry (List.mem_of_find?_eq_some hfind), htype]

theorem Valid.statement?_eq (h : Valid mapper cache) {key : StatementKey} {sql : String}
    (hsql : cache.statement? key = some sql) : ∃ template,
      mapper.template key = .ok template ∧
        ∀ vs, vs.length = template.arity → sql = key.dialect.style.write (template.tokens vs) := by
  obtain ⟨entry, hfind, rfl⟩ := Option.map_eq_some_iff.mp hsql
  have hkey : entry.1 = key := by simpa using List.find?_some hfind
  rw [← hkey]
  exact h.statement entry (List.mem_of_find?_eq_some hfind)

end Cache

namespace Action

variable {mapper : Mapper} {α β : Type}

/-- An action as a dialogue, on a cache. -/
def dialogue (action : Action α) (cache : Cache) : Dialogue (Except Error α × Cache) :=
  action.run.run cache

theorem dialogue_bind (x : Action α) (f : α → Action β) (cache : Cache) :
    (x >>= f).dialogue cache = (x.dialogue cache).bind fun ending =>
      match ending.1 with
      | .ok a => (f a).dialogue ending.2
      | .error e => .done (.error e, ending.2) := by
  show Dialogue.bind _ _ = Dialogue.bind _ _
  congr 1
  funext ending
  obtain ⟨result, cache⟩ := ending
  cases result <;> rfl

/-- A step that cannot talk is done at once. -/
theorem dialogue_lift (x : Except Error α) (cache : Cache) :
    (liftM x : Action α).dialogue cache = .done (x, cache) := by
  cases x <;> rfl

theorem lift_ok_bind (a : α) (f : α → Action β) :
    ((liftM (Except.ok a : Except Error α) : Action α) >>= f) = f a := rfl

theorem lift_bind_pure (x : Except Error α) (f : α → β) :
    ((liftM x : Action α) >>= fun a => pure (f a)) = liftM (f <$> x) := by
  cases x <;> rfl

/-- Checks one after the other are one check. -/
theorem mapM_lift (f : α → Except Error β) (as : List α) :
    (as.mapM fun a => (liftM (f a) : Action β)) = liftM (as.mapM f) := by
  induction as with
  | nil => rfl
  | cons a as ih =>
      rw [List.mapM_cons, List.mapM_cons, ih]
      cases f a with
      | error e => rfl
      | ok b => cases as.mapM f <;> rfl

/-- The conditions on the keys of several entities are worked out without talking. -/
theorem mapM_keyCondition (dialect : Dialect) (type : EntityType) (keys : List Property)
    (records : List Record) :
    (records.mapM fun record => (do
      let values ← type.valuesOf record keys
      return Mapper.keyMatch? dialect keys values : Action (Option Condition))) =
        liftM (records.mapM (Mapper.keyCondition dialect type keys)) := by
  rw [← mapM_lift]
  exact congrArg (fun f => records.mapM f) (funext fun record => lift_bind_pure _ _)

/-- A query is one call, and ends as this is answered. -/
theorem dialogue_query (query : Query) (cache : Cache) :
    (mapper.query query).dialogue cache =
      .ask (.query (mapper.statement query)) fun answer =>
        .done (match answer with
          | .ok rows => .ok rows
          | .error message => .error (.database message), cache) := by
  show Dialogue.ask _ _ = Dialogue.ask _ _
  congr 1
  funext answer
  cases answer <;> rfl

/-- A query is sent, and what goes on sees what is answered. -/
theorem dialogue_query_bind (query : Query) (f : List Row → Action α) (cache : Cache) :
    (mapper.query query >>= f).dialogue cache =
      .ask (.query (mapper.statement query)) fun answer =>
        (ofAnswer answer >>= f).dialogue cache := rfl

theorem dialogue_exec_bind (query : Query) (f : UInt64 → Action α) (cache : Cache) :
    (mapper.exec query >>= f).dialogue cache =
      .ask (.exec (mapper.statement query)) fun answer =>
        (ofAnswer answer >>= f).dialogue cache := rfl

/-- An action that is run to its outcome makes its calls, and does not fail. -/
theorem dialogue_outcome (x : Action α) (cache : Cache) :
    (liftM (m := StateT Cache Dialogue) x.run : Action (Except Error α)).dialogue cache =
      (x.dialogue cache).bind fun ending => .done (.ok ending.1, ending.2) := rfl

theorem dialogue_get_bind (f : Cache → Action α) (cache : Cache) :
    ((get : Action Cache) >>= f).dialogue cache = (f cache).dialogue cache := rfl

/-- An action on a connection: how it ends, with the cache and the connection as it leaves them. -/
def on {σ : Type} (action : Action α) (answer : (c : Call) → σ → c.Answer × σ)
    (state : Cache × σ) : Except Error α × Cache × σ :=
  let ending := (action.dialogue state.1).run answer state.2
  (ending.1.1, ending.1.2, ending.2)

section On

variable {σ : Type} {answer : (c : Call) → σ → c.Answer × σ} {state later : Cache × σ}

/-- What goes on runs where the first part left off. -/
theorem on_bind {x : Action α} {a : α} (h : x.on answer state = (.ok a, later))
    (f : α → Action β) : (x >>= f).on answer state = (f a).on answer later := by
  have hresult : ((x.dialogue state.1).run answer state.2).1.1 = .ok a := congrArg Prod.fst h
  have hlater : (((x.dialogue state.1).run answer state.2).1.2,
      ((x.dialogue state.1).run answer state.2).2) = later := congrArg Prod.snd h
  subst hlater
  rw [on, dialogue_bind, Dialogue.run_bind]
  simp only [hresult]
  rfl

/-- What was to go on does not run after a failure. -/
theorem on_bind_error {x : Action α} {e : Error} (h : x.on answer state = (.error e, later))
    (f : α → Action β) : (x >>= f).on answer state = (.error e, later) := by
  have hresult : ((x.dialogue state.1).run answer state.2).1.1 = .error e := congrArg Prod.fst h
  have hlater : (((x.dialogue state.1).run answer state.2).1.2,
      ((x.dialogue state.1).run answer state.2).2) = later := congrArg Prod.snd h
  subst hlater
  rw [on, dialogue_bind, Dialogue.run_bind]
  simp only [hresult]
  rfl

/-- What does not talk to the connection changes nothing. -/
theorem on_lift {x : Except Error α} {a : α} (h : x = .ok a) :
    (liftM x : Action α).on answer state = (.ok a, state) := by
  subst h
  rfl

theorem on_lift_error {x : Except Error α} {e : Error} (h : x = .error e) :
    (liftM x : Action α).on answer state = (.error e, state) := by
  subst h
  rfl

/-- A query ends as it is answered. -/
theorem on_query_eq (query : Query) :
    (mapper.query query).on answer state =
      (match (answer (.query (mapper.statement query)) state.2).1 with
        | .ok rows => .ok rows
        | .error message => .error (.database message),
        state.1, (answer (.query (mapper.statement query)) state.2).2) := by
  rw [on, dialogue_query]
  rfl

/-- A query that is answered with rows. -/
theorem on_query {query : Query} {rows : List Row}
    (h : (answer (.query (mapper.statement query)) state.2).1 = .ok rows) :
    (mapper.query query).on answer state =
      (.ok rows, state.1, (answer (.query (mapper.statement query)) state.2).2) := by
  rw [on_query_eq, h]

/-- The rows of a selection are those that are answered to its statement. -/
theorem on_rows {selection : Selection} {tokens : List Token} {query : Query} {rows : List Row}
    (hbuild : Query.build selection.dialect.style tokens = .ok query)
    (h : (answer (.query (selection.mapper.statement query)) state.2).1 = .ok rows) :
    (selection.rows tokens).on answer state =
      (.ok rows, state.1, (answer (.query (selection.mapper.statement query)) state.2).2) :=
  (on_bind (on_lift hbuild) _).trans (on_query h)

end On

/-- The calls that an action sends, its result and the cache that it leaves have a property,
whatever is answered. -/
def Always (action : Action α) (cache : Cache)
    (P : List Call → Except Error α → Cache → Prop) : Prop :=
  (action.dialogue cache).Always fun sent ending => P sent ending.1 ending.2

theorem Always.mono {action : Action α} {cache : Cache}
    {P Q : List Call → Except Error α → Cache → Prop} (h : action.Always cache P)
    (hPQ : ∀ sent result cache', P sent result cache' → Q sent result cache') :
    action.Always cache Q :=
  Dialogue.Always.mono h fun sent ending => hPQ sent ending.1 ending.2

theorem Always.of_dialogue_eq {x y : Action α} {cache cache' : Cache}
    {P : List Call → Except Error α → Cache → Prop} (h : y.Always cache' P)
    (heq : x.dialogue cache = y.dialogue cache') : x.Always cache P := by
  unfold Always
  rw [heq]
  exact h

/-- What goes on from a result sends its calls after those that were sent; an error ends the
action. -/
theorem always_bind {x : Action α} {f : α → Action β} {cache : Cache}
    {P : List Call → Except Error β → Cache → Prop}
    (h : x.Always cache fun sent result cache' =>
      match result with
      | .ok a => (f a).Always cache' fun later => P (sent ++ later)
      | .error e => P sent (.error e) cache') :
    (x >>= f).Always cache P := by
  unfold Always at h ⊢
  rw [dialogue_bind]
  refine Dialogue.always_bind (h.mono fun sent ending hending => ?_)
  obtain ⟨result, cache'⟩ := ending
  cases result with
  | ok a => exact hending
  | error e =>
      show P (sent ++ []) (.error e) cache'
      rw [List.append_nil]
      exact hending

/-- Two ends of an action with the same result and valid caches. -/
def Agree (mapper : Mapper) (x y : Except Error α × Cache) : Prop :=
  x.1 = y.1 ∧ x.2.Valid mapper ∧ y.2.Valid mapper

/-- Two actions do the same, whatever valid caches they start with, and the caches stay valid. -/
def Same (mapper : Mapper) (x y : Action α) : Prop :=
  ∀ c d : Cache, c.Valid mapper → d.Valid mapper →
    Dialogue.Rel (Agree mapper) (x.dialogue c) (y.dialogue d)

/-- The cache makes no difference to an action, and stays valid. -/
def Transparent (mapper : Mapper) (action : Action α) : Prop :=
  ∀ c d : Cache, c.Valid mapper → d.Valid mapper →
    Dialogue.Rel (Agree mapper) (action.dialogue c) (action.dialogue d)

theorem Transparent.same {x : Action α} (h : Transparent mapper x) : Same mapper x x := h

namespace Same

/-- Actions that do the same go on in ways that do the same. -/
theorem bind {x y : Action α} {f g : α → Action β} (hxy : Same mapper x y)
    (hfg : ∀ a, Same mapper (f a) (g a)) : Same mapper (x >>= f) (y >>= g) := by
  intro c d hc hd
  rw [dialogue_bind, dialogue_bind]
  refine (hxy c d hc hd).bind fun ending other hagree => ?_
  obtain ⟨result, c⟩ := ending
  obtain ⟨result', d⟩ := other
  obtain ⟨rfl, hc, hd⟩ := hagree
  cases result with
  | ok a => exact hfg a c d hc hd
  | error e => exact .done ⟨rfl, hc, hd⟩

/-- A step that cannot talk, and what goes on from its result. -/
theorem lift_bind {x : Except Error α} {f g : α → Action β}
    (hfg : ∀ a, x = .ok a → Same mapper (f a) (g a)) :
    Same mapper ((liftM x : Action α) >>= f) ((liftM x : Action α) >>= g) := by
  cases x with
  | error e => exact fun _ _ hc hd => .done ⟨rfl, hc, hd⟩
  | ok a => exact hfg a rfl

/-- What was to go on does not matter after a failure. -/
theorem throw_bind (e : Error) (f g : α → Action β) :
    Same mapper ((throw e : Action α) >>= f) ((throw e : Action α) >>= g) :=
  fun _ _ hc hd => .done ⟨rfl, hc, hd⟩

theorem ite {p : Prop} [Decidable p] {x y x' y' : Action α} (hx : Same mapper x x')
    (hy : Same mapper y y') : Same mapper (if p then x else y) (if p then x' else y') := by
  split
  · exact hx
  · exact hy

end Same

namespace Transparent

/-! ### Actions that do not look at the cache -/

theorem pure (a : α) : Transparent mapper (pure a : Action α) :=
  fun _ _ hc hd => .done ⟨rfl, hc, hd⟩

theorem throw (e : Error) : Transparent mapper (throw e : Action α) :=
  fun _ _ hc hd => .done ⟨rfl, hc, hd⟩

theorem lift (x : Except Error α) : Transparent mapper (liftM x : Action α) :=
  fun _ _ hc hd => .done ⟨rfl, hc, hd⟩

theorem call (c : Call) : Transparent mapper (Action.call c) :=
  fun _ _ hc hd => .ask fun _ => .done ⟨rfl, hc, hd⟩

theorem ofAnswer (x : Except String α) : Transparent mapper (Action.ofAnswer x) := by
  cases x with
  | ok a => exact pure a
  | error message => exact throw _

/-- One transparent action after another. -/
theorem bind {x : Action α} {f : α → Action β} (hx : Transparent mapper x)
    (hf : ∀ a, Transparent mapper (f a)) : Transparent mapper (x >>= f) :=
  hx.same.bind fun a => (hf a).same

/-- A step that cannot talk, and what goes on from its result. -/
theorem lift_bind {x : Except Error α} {f : α → Action β}
    (hf : ∀ a, x = .ok a → Transparent mapper (f a)) :
    Transparent mapper ((liftM x : Action α) >>= f) :=
  Same.lift_bind fun a ha => (hf a ha).same

/-- The outcome of a transparent action, as a result. -/
theorem outcome {x : Action α} (hx : Transparent mapper x) :
    Transparent mapper (liftM (m := StateT Cache Dialogue) x.run : Action (Except Error α)) := by
  intro c d hc hd
  rw [dialogue_outcome, dialogue_outcome]
  refine (hx c d hc hd).bind fun ending other hagree => ?_
  exact .done ⟨congrArg Except.ok hagree.1, hagree.2⟩

/-- What is transparent on an open connection is so on a closed one. -/
theorem whileOpen {body : Action α} (hbody : Transparent mapper body) :
    Transparent mapper (Mapper.whileOpen body) := by
  refine (call .isOpen).bind fun (isOpen : Bool) => Same.ite hbody.same ?_
  refine (call .openUp).bind fun answer => (ofAnswer _).bind fun _ => ?_
  refine (outcome hbody).bind fun result => (call .close).bind fun _ => ?_
  cases result with
  | ok a => exact pure a
  | error e => exact throw e

/-! ### Statements -/

theorem query (query : Query) : Transparent mapper (mapper.query query) :=
  (call _).bind fun _ => ofAnswer _

theorem exec (query : Query) : Transparent mapper (mapper.exec query) :=
  (call _).bind fun _ => ofAnswer _

/-! ### Actions that look at the cache -/

/-- The descriptor of a type is the one that is built for it, whether it was kept or not. -/
theorem dialogue_describe {c : Cache} (hc : c.Valid mapper) (type : EntityType) :
    ∃ c' : Cache, c'.Valid mapper ∧
      (mapper.describe type).dialogue c =
        .done (.ok (Descriptor.build mapper.tableRule type), c') := by
  unfold Mapper.describe
  rw [dialogue_get_bind]
  cases hkept : c.descriptor? type with
  | some descriptor =>
      obtain rfl := hc.descriptor?_eq hkept
      refine ⟨c, hc, ?_⟩
      rfl
  | none =>
      refine ⟨{ c with
        descriptors := (type, Descriptor.build mapper.tableRule type) :: c.descriptors },
        ⟨?_, hc.statement⟩, ?_⟩
      · intro entry hentry
        rcases List.mem_cons.mp hentry with rfl | hentry
        · rfl
        · exact hc.descriptor entry hentry
      · rfl

theorem sql_of_build {style : Style} {tokens : List Token} {query : Query}
    (h : Query.build style tokens = .ok query) : query.sql = style.write tokens := by
  obtain ⟨data, -, h⟩ := exists_of_bind_eq_ok h
  rw [← Except.ok.inj h]

/-- **A kept text with fresh values is the statement that would be built for them.**  A
statement that cannot be built is not kept. -/
theorem dialogue_cachedQuery {c : Cache} (hc : c.Valid mapper) {key : StatementKey}
    {vs : List Value} {template : Template} (hkey : mapper.template key = .ok template)
    (hvs : vs.length = template.arity) :
    ∃ c' : Cache, c'.Valid mapper ∧
      (Mapper.cachedQuery key vs template.tokens).dialogue c =
        .done (Query.build key.dialect.style (template.tokens vs), c') := by
  unfold Mapper.cachedQuery
  rw [dialogue_get_bind]
  cases hkept : c.statement? key with
  | some sql =>
      obtain ⟨template', hkey', hsql⟩ := hc.statement?_eq hkept
      obtain rfl : template' = template := Except.ok.inj (hkey'.symm.trans hkey)
      refine ⟨c, hc, ?_⟩
      rw [← template'.withValues_write _ hvs hvs, ← hsql vs hvs]
      rfl
  | none =>
      cases hbuild : Query.build key.dialect.style (template.tokens vs) with
      | error e =>
          exact ⟨c, hc, rfl⟩
      | ok query =>
          refine ⟨{ c with statements := (key, query.sql) :: c.statements },
            ⟨hc.descriptor, ?_⟩, ?_⟩
          · intro entry hentry
            rcases List.mem_cons.mp hentry with rfl | hentry
            · refine ⟨template, hkey, fun ws hws => ?_⟩
              exact (sql_of_build hbuild).trans (template.write_tokens _ hvs hws)
            · exact hc.statement entry hentry
          · rfl

end Transparent

namespace Same

/-- Types with descriptors from which the same is done. -/
theorem describe {type other : EntityType} {f g : Descriptor → Action α}
    (hfg : Same mapper (f (Descriptor.build mapper.tableRule type))
      (g (Descriptor.build mapper.tableRule other))) :
    Same mapper (mapper.describe type >>= f) (mapper.describe other >>= g) := by
  intro c d hc hd
  obtain ⟨c', hc', hcd⟩ := Transparent.dialogue_describe hc type
  obtain ⟨d', hd', hdd⟩ := Transparent.dialogue_describe hd other
  rw [dialogue_bind, dialogue_bind, hcd, hdd]
  exact hfg c' d' hc' hd'

/-- Two keys with one template. -/
theorem cachedQuery (key other : StatementKey) (hdialect : other.dialect = key.dialect)
    {vs : List Value} {template : Template} (hkey : mapper.template key = .ok template)
    (hother : mapper.template other = .ok template) (hvs : vs.length = template.arity) :
    Same mapper (Mapper.cachedQuery key vs template.tokens)
      (Mapper.cachedQuery other vs template.tokens) := by
  intro c d hc hd
  obtain ⟨c', hc', hcd⟩ := Transparent.dialogue_cachedQuery hc hkey hvs
  obtain ⟨d', hd', hdd⟩ := Transparent.dialogue_cachedQuery hd hother hvs
  rw [hcd, hdd, hdialect]
  exact .done ⟨rfl, hc', hd'⟩

end Same

namespace Transparent

theorem describe {type : EntityType} {f : Descriptor → Action α}
    (hf : Transparent mapper (f (Descriptor.build mapper.tableRule type))) :
    Transparent mapper (mapper.describe type >>= f) :=
  Same.describe hf.same

/-- A statement that is kept is the one that would be built for the values, and what goes on from
it. -/
theorem cachedQuery_bind {key : StatementKey} {vs : List Value} {template : Template}
    {f : Query → Action α} (hkey : mapper.template key = .ok template)
    (hvs : vs.length = template.arity)
    (hf : ∀ query, Query.build key.dialect.style (template.tokens vs) = .ok query →
      Transparent mapper (f query)) :
    Transparent mapper (Mapper.cachedQuery key vs template.tokens >>= f) := by
  intro c d hc hd
  obtain ⟨c', hc', hcd⟩ := dialogue_cachedQuery hc hkey hvs
  obtain ⟨d', hd', hdd⟩ := dialogue_cachedQuery hd hkey hvs
  rw [dialogue_bind, dialogue_bind, hcd, hdd]
  cases hbuild : Query.build key.dialect.style (template.tokens vs) with
  | ok query => exact hf query hbuild c' d' hc' hd'
  | error e => exact .done ⟨rfl, hc', hd'⟩

end Transparent

end Action

/-! ### Tracked entities -/

/-- The properties that the update of a tracked entity is restricted to, if it sends anything. -/
def Dirty.only : Dirty → Option (Option (List String))
  | clean => none
  | fields names => some (some names)
  | all => some none

theorem Dirty.only_eq_none_iff {dirty : Dirty} : dirty.only = none ↔ dirty = .clean := by
  cases dirty <;> simp [only]

/-- The entity after an update of it: it counts as stored, unless the update failed. -/
def Tracked.after {α : Type} (tracked : Tracked) : Except Error α → Tracked
  | .ok _ => tracked.markClean
  | .error _ => tracked

namespace TrackedAction

variable {α : Type}

/-- An action on a tracked entity as a dialogue, on the entity and a cache.  It ends with the entity
as it is then, whether or not it fails. -/
def dialogue (action : TrackedAction α) (tracked : Tracked) (cache : Cache) :
    Dialogue ((Except Error α × Tracked) × Cache) :=
  (action.run.run tracked).run cache

/-- A caller who holds the entity has it back with the result. -/
theorem dialogue_holding (action : TrackedAction α) (tracked : Tracked) (cache : Cache) :
    (action.holding tracked).dialogue cache = (action.dialogue tracked cache).bind fun ending =>
      .done (ending.1.1.map fun a => (a, ending.1.2), ending.2) := rfl

end TrackedAction

namespace Mapper

variable (mapper : Mapper) (connection : String) (tracked : Tracked)

/-- The changes of a tracked entity are written by an update of the entity, and how this ends
decides what becomes of them. -/
theorem dialogue_updateTracked (cache : Cache) :
    (mapper.updateTracked connection).dialogue tracked cache =
      match tracked.dirty.only with
      | none => .done ((.ok false, tracked), cache)
      | some only =>
        ((mapper.updateColumns connection tracked.type tracked.record only).dialogue cache).bind
          fun ending => .done ((ending.1, tracked.after ending.1), ending.2) := by
  obtain ⟨type, record, dirty⟩ := tracked
  cases dirty with
  | clean => rfl
  | all | fields _ =>
      -- what goes on from the update only marks the entity, and makes no calls
      show Dialogue.bind (Dialogue.bind (Dialogue.bind _ _) _) _ = Dialogue.bind _ _
      rw [Dialogue.bind_assoc]
      congr 1
      funext ending
      obtain ⟨result, later⟩ := ending
      cases result <;> rfl

/-- The same for a caller who holds the entity. -/
theorem holding_updateTracked :
    (mapper.updateTracked connection).holding tracked =
      match tracked.dirty.only with
      | none => pure (false, tracked)
      | some only => do
        let updated ← mapper.updateColumns connection tracked.type tracked.record only
        return (updated, tracked.markClean) := by
  funext cache
  show ((mapper.updateTracked connection).holding tracked).dialogue cache = Action.dialogue _ cache
  rw [TrackedAction.dialogue_holding, dialogue_updateTracked]
  cases tracked.dirty.only with
  | none => rfl
  | some only =>
      dsimp only
      rw [Dialogue.bind_assoc, Action.dialogue_bind]
      congr 1
      funext ending
      obtain ⟨result, later⟩ := ending
      cases result <;> rfl

end Mapper

end RowMapper
