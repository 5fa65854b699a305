import RowMapper.Proofs.Mapper.Reports

/-!
# Checks come first

An operation that is refused has not sent anything: what can be wrong with a request is found
out before the first statement.

* `Error.refuses` — the errors that say a request is wrong, whatever the database holds;
* `Action.Runs`, `Action.ChecksFirst` — an action that is not refused, and one that is refused
  before it sends anything;
* `Phase.Keeps` — what an action in a phase of its walk does of the two;
* `Walk.keeps` — every walk does, on whatever cache;
* `Operation.checksFirst`, `Operation.exists_whileOpen` — so an operation that inserts nothing is
  refused before it sends anything, and one that inserts is put around a body that is.

### Why the cache need not be valid

A refused operation is to leave any cache as it was, and so a walk is looked at here of which
nothing is known but its shape: the proposition in front of what it says of descriptors and texts
is `False`.
-/

namespace RowMapper

open Sql

/-- Whether an error says that a request is wrong, and not what came of it. -/
def Error.refuses : Error → Bool
  | schema .. | unsupportedPredicate _ | argument _ | unknownProperty .. | invalidCursor _ => true
  | invalidOperation _ | mapping .. | database _ => false

/-- An error over an answer does not say that the request was wrong. -/
theorem Error.refuses_of_overAnswer {e : Error} (h : e.overAnswer = true) : e.refuses = false := by
  unfold overAnswer at h
  split at h <;> first | rfl | cases h

/-- The step is not refused: if it fails, then over what came of the request. -/
def Unrefused {α : Type} (x : Except Error α) : Prop := ∀ e, x = .error e → e.refuses = false

/-- Whether a call sends a statement. -/
def Call.isStatement : Call → Bool
  | query _ | exec _ => true
  | isOpen | openUp | close => false

namespace Action

variable {mapper : Mapper} {α β : Type}

/-- A descriptor that is built for the first time is kept, and no statement is. -/
theorem exists_dialogue_describe (mapper : Mapper) (type : EntityType) (cache : Cache) :
    ∃ descriptor cache', (mapper.describe type).dialogue cache = .done (.ok descriptor, cache') ∧
      cache'.statements = cache.statements := by
  unfold Mapper.describe
  rw [dialogue_get_bind]
  cases cache.descriptor? type with
  | some descriptor => exact ⟨descriptor, cache, rfl, rfl⟩
  | none => exact ⟨Descriptor.build mapper.tableRule type, _, rfl, rfl⟩

/-- What goes on from the descriptor of a type, on a cache with the same statements. -/
theorem exists_dialogue_describe_bind (mapper : Mapper) (type : EntityType)
    (f : Descriptor → Action α) (cache : Cache) : ∃ descriptor cache',
      (mapper.describe type >>= f).dialogue cache = (f descriptor).dialogue cache' ∧
        cache'.statements = cache.statements := by
  obtain ⟨descriptor, cache', hdescribe, hkept⟩ := exists_dialogue_describe mapper type cache
  refine ⟨descriptor, cache', ?_, hkept⟩
  rw [dialogue_bind, hdescribe]
  rfl

/-! ### Two kinds of actions -/

/-- An action sends statements only and is not refused. -/
def Runs (action : Action α) : Prop :=
  ∀ cache, action.Always cache fun sent result _ =>
    (∀ call ∈ sent, call.isStatement = true) ∧ ∀ e, result = .error e → e.refuses = false

/-- An action sends statements only, and if it is refused it has sent none and added none to the
cache. -/
def ChecksFirst (action : Action α) : Prop :=
  ∀ cache, action.Always cache fun sent result cache' =>
    (∀ call ∈ sent, call.isStatement = true) ∧
      ∀ e, result = .error e → e.refuses = true →
        sent = [] ∧ cache'.statements = cache.statements

theorem Runs.checksFirst {x : Action α} (hx : Runs x) : ChecksFirst x := by
  intro cache
  refine (hx cache).mono fun sent result cache' h => ⟨h.1, fun e he hrefuses => ?_⟩
  rw [h.2 e he] at hrefuses
  cases hrefuses

namespace Runs

theorem pure (a : α) : Runs (pure a : Action α) :=
  fun _ => ⟨fun _ hcall => absurd hcall List.not_mem_nil, fun _ he => by cases he⟩

/-- A step that cannot be refused, and what goes on from its result. -/
theorem lift_bind {x : Except Error α} {f : α → Action β} (hx : Unrefused x)
    (hf : ∀ a, x = .ok a → Runs (f a)) : Runs ((liftM x : Action α) >>= f) := by
  cases x with
  | ok a => exact hf a rfl
  | error e =>
      refine fun _ => ⟨fun _ hcall => absurd hcall List.not_mem_nil, fun e' he => ?_⟩
      cases he
      exact hx e rfl

theorem call {c : Call} (hc : c.isStatement = true) : Runs (Action.call c) := by
  intro cache answer
  refine ⟨fun call hcall => ?_, fun e he => by cases he⟩
  obtain rfl := List.mem_singleton.mp hcall
  exact hc

/-- The only error of a statement is that of the connection. -/
theorem ofAnswer (x : Except String α) : Runs (Action.ofAnswer x) := by
  cases x with
  | ok a => exact pure a
  | error message =>
      refine fun _ => ⟨fun _ hcall => absurd hcall List.not_mem_nil, fun e he => ?_⟩
      cases he
      rfl

theorem bind {x : Action α} {f : α → Action β} (hx : Runs x) (hf : ∀ a, Runs (f a)) :
    Runs (x >>= f) := by
  intro cache
  refine always_bind ((hx cache).mono fun sent result cache' h => ?_)
  obtain ⟨hsent, hresult⟩ := h
  cases result with
  | ok a =>
      refine (hf a cache').mono fun later result c h => ⟨fun call hcall => ?_, h.2⟩
      rcases List.mem_append.mp hcall with hcall | hcall
      · exact hsent call hcall
      · exact h.1 call hcall
  | error e =>
      refine ⟨hsent, fun e' he => ?_⟩
      cases he
      exact hresult e rfl

theorem query (query : Query) : Runs (mapper.query query) :=
  (call rfl).bind fun _ => ofAnswer _

theorem exec (query : Query) : Runs (mapper.exec query) :=
  (call rfl).bind fun _ => ofAnswer _

end Runs

namespace ChecksFirst

/-- A check, and what goes on from its result. -/
theorem lift_bind {x : Except Error α} {f : α → Action β}
    (hf : ∀ a, x = .ok a → ChecksFirst (f a)) : ChecksFirst ((liftM x : Action α) >>= f) := by
  cases x with
  | ok a => exact hf a rfl
  | error e =>
      exact fun _ => ⟨fun _ hcall => absurd hcall List.not_mem_nil, fun _ _ _ => ⟨rfl, rfl⟩⟩

theorem describe {type : EntityType} {f : Descriptor → Action α}
    (hf : ∀ descriptor, ChecksFirst (f descriptor)) : ChecksFirst (mapper.describe type >>= f) := by
  intro cache
  obtain ⟨descriptor, cache', hdialogue, hkept⟩ :=
    exists_dialogue_describe_bind mapper type f cache
  refine .of_dialogue_eq ((hf descriptor cache').mono fun sent result later h => ?_) hdialogue
  refine ⟨h.1, fun e he hrefuses => ?_⟩
  obtain ⟨hsent, hsame⟩ := h.2 e he hrefuses
  exact ⟨hsent, hsame.trans hkept⟩

/-- A text is kept once its statement has been built. -/
theorem cachedQuery (key : StatementKey) (values : List Value)
    (tokens : List Value → List Token) :
    ChecksFirst (Mapper.cachedQuery key values tokens) := by
  intro cache
  unfold Mapper.cachedQuery Always
  rw [dialogue_get_bind]
  cases cache.statement? key with
  | some sql =>
      exact ⟨fun _ hcall => absurd hcall List.not_mem_nil, fun _ _ _ => ⟨rfl, rfl⟩⟩
  | none =>
      dsimp only
      cases Query.build key.dialect.style (tokens values) with
      | error e =>
          exact ⟨fun _ hcall => absurd hcall List.not_mem_nil, fun _ _ _ => ⟨rfl, rfl⟩⟩
      | ok query =>
          exact ⟨fun _ hcall => absurd hcall List.not_mem_nil, fun _ he => by cases he⟩

/-- What goes on after a statement must not be refused. -/
theorem bind {x : Action α} {f : α → Action β} (hx : ChecksFirst x) (hf : ∀ a, Runs (f a)) :
    ChecksFirst (x >>= f) := by
  intro cache
  refine always_bind ((hx cache).mono fun sent result cache' h => ?_)
  obtain ⟨hsent, hrefused⟩ := h
  cases result with
  | ok a =>
      refine (hf a cache').mono fun later result c h => ⟨fun call hcall => ?_, ?_⟩
      · rcases List.mem_append.mp hcall with hcall | hcall
        · exact hsent call hcall
        · exact h.1 call hcall
      · intro e he hrefuses
        rw [h.2 e he] at hrefuses
        cases hrefuses
  | error e =>
      refine ⟨hsent, fun e' he hrefuses => ?_⟩
      cases he
      exact hrefused e rfl hrefuses

end ChecksFirst

end Action

/-! ### Walks -/

/-- What an action does in a phase of its walk. -/
def Phase.Keeps {α : Type} : Phase → Action α → Prop
  | asking => Action.ChecksFirst
  | answered => Action.Runs

theorem Action.Runs.keeps {α : Type} {x : Action α} (h : x.Runs) (phase : Phase) :
    phase.Keeps x := by
  cases phase with
  | asking => exact h.checksFirst
  | answered => exact h

/-- **A walk is not refused once something was sent**, and nothing is kept for it before. -/
theorem Action.Walk.keeps {mapper : Mapper} {S : Query → Prop} {E : Error → Prop} {phase : Phase}
    {α : Type} {x : Action α} (h : Walk mapper False S E phase x) : phase.Keeps x := by
  induction h with
  | @done phase α a => exact (Runs.pure a).keeps phase
  | @step phase α β x f herror hf ih =>
      cases phase with
      | asking => exact ChecksFirst.lift_bind ih
      | answered =>
          exact Runs.lift_bind (fun e he => Error.refuses_of_overAnswer (herror e he)) ih
  | describe hf ih => exact ChecksFirst.describe fun descriptor => ih descriptor False.elim
  | keep hkey herror hf ih =>
      exact (ChecksFirst.cachedQuery _ _ _).bind fun query => ih query False.elim
  | query hquery hf ih => exact ((Runs.query _).bind ih).keeps _
  | exec hquery hf ih => exact ((Runs.exec _).bind ih).keeps _

namespace Operation

/-- An operation that is no insert sends statements only. -/
theorem checksFirst (mapper : Mapper) (operation : Operation) (h : operation.inserted = none) :
    (operation.action mapper).ChecksFirst := by
  have hcourse := operation.course mapper False
  rw [h] at hcourse
  cases hcourse with
  | walk hwalk => exact hwalk.keeps

/-- An insert of nothing has its result at once. -/
theorem exists_dialogue_done (mapper : Mapper) {operation : Operation}
    (h : operation.inserted = some 0) (cache : Cache) : ∃ ending,
      (operation.action mapper).dialogue cache = .done ending ∧
        ending.2.statements = cache.statements := by
  have hcourse := operation.course mapper False
  rw [h] at hcourse
  generalize operation.action mapper = action at hcourse
  cases hcourse with
  | nothing type a =>
      obtain ⟨descriptor, cache', hdialogue, hkept⟩ :=
        Action.exists_dialogue_describe_bind mapper type (fun _ => pure a) cache
      exact ⟨_, hdialogue, hkept⟩

/-- An insert of something is a body on an open connection. -/
theorem exists_whileOpen (mapper : Mapper) {operation : Operation} {n : Nat}
    (h : operation.inserted = some (n + 1)) (cache : Cache) : ∃ body cache',
      (operation.action mapper).dialogue cache = (Mapper.whileOpen body).dialogue cache' ∧
        body.ChecksFirst ∧ cache'.statements = cache.statements := by
  have hcourse := operation.course mapper False
  rw [h] at hcourse
  generalize operation.action mapper = action at hcourse
  cases hcourse with
  | @opening n type body hbody =>
      obtain ⟨descriptor, cache', hdialogue, hkept⟩ :=
        Action.exists_dialogue_describe_bind mapper type
          (fun descriptor => Mapper.whileOpen (body descriptor)) cache
      exact ⟨body descriptor, cache', hdialogue, (hbody descriptor False.elim).keeps, hkept⟩

end Operation

end RowMapper
