import RowMapper.Proofs.Mapper.Bracket

/-!
# What an operation ensures

On a valid cache an operation sends only the statements that it may send, and it ends with an error
over a missing value only if an entity of it has not all its values.

* `Call.statement?` — the statement that a call sends;
* `Action.Ensures` — on valid caches, and whatever is answered, an action sends queries of a kind
  only, ends with a result or an error of a kind, and leaves a valid cache behind;
* `Walk.ensures`, `Course.ensures` — what is said of the steps of a walk is ensured by it;
* `Operation.ensures` — what every operation ensures.
-/

namespace RowMapper

open Sql

/-- The statement that a call sends. -/
def Call.statement? : Call → Option Statement
  | query statement | exec statement => some statement
  | isOpen | openUp | close => none

namespace Action

variable {mapper : Mapper} {S : Query → Prop} {E : Error → Prop} {α β : Type}

/-- On every valid cache, and whatever is answered, an action sends only queries with a property,
ends with a result or an error with a property, and leaves a valid cache behind. -/
def Ensures (mapper : Mapper) (S : Query → Prop) (E : Error → Prop) (action : Action α) : Prop :=
  ∀ cache : Cache, cache.Valid mapper → action.Always cache fun sent result cache' =>
    cache'.Valid mapper ∧
      (∀ call ∈ sent, ∀ statement, call.statement? = some statement →
        ∃ query, S query ∧ statement = mapper.statement query) ∧
      ∀ e, result = .error e → E e

namespace Ensures

theorem mono {x : Action α} {S' : Query → Prop} {E' : Error → Prop} (hx : Ensures mapper S E x)
    (hS : ∀ query, S query → S' query) (hE : ∀ e, E e → E' e) : Ensures mapper S' E' x := by
  intro cache hc
  refine (hx cache hc).mono fun sent result cache' h => ⟨h.1, ?_, fun e he => hE e (h.2.2 e he)⟩
  intro call hcall statement hstatement
  obtain ⟨query, hquery, hsame⟩ := h.2.1 call hcall statement hstatement
  exact ⟨query, hS query hquery, hsame⟩

theorem pure (a : α) : Ensures mapper S E (pure a : Action α) :=
  fun _ hc => ⟨hc, fun _ hcall => absurd hcall List.not_mem_nil, fun _ he => nomatch he⟩

theorem throw {e : Error} (h : E e) : Ensures mapper S E (throw e : Action α) := by
  refine fun _ hc => ⟨hc, fun _ hcall => absurd hcall List.not_mem_nil, fun e' he => ?_⟩
  cases he
  exact h

/-- One action after another. -/
theorem bind {x : Action α} {f : α → Action β} (hx : Ensures mapper S E x)
    (hf : ∀ a, Ensures mapper S E (f a)) : Ensures mapper S E (x >>= f) := by
  intro cache hc
  refine always_bind ((hx cache hc).mono fun sent result cache' h => ?_)
  obtain ⟨hvalid, hsent, hresult⟩ := h
  cases result with
  | ok a =>
      refine (hf a cache' hvalid).mono fun later ending cache'' hlater => ?_
      refine ⟨hlater.1, fun call hcall => ?_, hlater.2.2⟩
      rcases List.mem_append.mp hcall with hcall | hcall
      · exact hsent call hcall
      · exact hlater.2.1 call hcall
  | error e =>
      refine ⟨hvalid, hsent, fun e' he => ?_⟩
      cases he
      exact hresult e rfl

/-- A step that cannot talk, and what goes on from its result. -/
theorem lift_bind {x : Except Error α} {f : α → Action β} (herror : ∀ e, x = .error e → E e)
    (hf : ∀ a, x = .ok a → Ensures mapper S E (f a)) :
    Ensures mapper S E ((liftM x : Action α) >>= f) := by
  cases x with
  | ok a => exact hf a rfl
  | error e =>
      refine fun _ hc => ⟨hc, fun _ hcall => absurd hcall List.not_mem_nil, fun e' he => ?_⟩
      cases he
      exact herror e rfl

/-! ### Statements -/

theorem call {c : Call} (hc : ∀ statement, c.statement? = some statement →
      ∃ query, S query ∧ statement = mapper.statement query) :
    Ensures mapper S E (Action.call c) := by
  intro cache hcache answer
  refine ⟨hcache, fun call hcall => ?_, fun _ he => nomatch he⟩
  obtain rfl := List.mem_singleton.mp hcall
  exact hc

section Statements

variable (hdatabase : ∀ message, E (.database message))
include hdatabase

theorem ofAnswer (x : Except String α) : Ensures mapper S E (Action.ofAnswer x) := by
  cases x with
  | ok a => exact pure a
  | error message => exact throw (hdatabase message)

theorem query {query : Query} (h : S query) : Ensures mapper S E (mapper.query query) := by
  refine (call fun statement hstatement => ⟨query, h, ?_⟩).bind fun _ => ofAnswer hdatabase _
  exact (Option.some.inj hstatement).symm

theorem exec {query : Query} (h : S query) : Ensures mapper S E (mapper.exec query) := by
  refine (call fun statement hstatement => ⟨query, h, ?_⟩).bind fun _ => ofAnswer hdatabase _
  exact (Option.some.inj hstatement).symm

/-- Opening and closing sends no statement. -/
theorem whileOpen {body : Action α} (hbody : Ensures mapper S E body) :
    Ensures mapper S E (Mapper.whileOpen body) := by
  intro cache hc
  refine (always_whileOpen (hbody cache hc)).mono ?_
  rintro sent result cache' (⟨inner, ⟨hvalid, hinner, hresult⟩, hsent⟩ | ⟨message, rfl, rfl, rfl⟩)
  · refine ⟨hvalid, fun call hcall statement hstatement => ?_, hresult⟩
    rcases hsent with rfl | rfl
    · rcases List.mem_cons.mp hcall with rfl | hcall
      · cases hstatement
      · exact hinner call hcall statement hstatement
    · simp only [List.mem_cons, List.mem_append, List.not_mem_nil, or_false] at hcall
      rcases hcall with rfl | rfl | hcall | rfl
      · cases hstatement
      · cases hstatement
      · exact hinner call hcall statement hstatement
      · cases hstatement
  · refine ⟨hc, fun call hcall statement hstatement => ?_, fun e he => ?_⟩
    · simp only [List.mem_cons, List.not_mem_nil, or_false] at hcall
      rcases hcall with rfl | rfl <;> cases hstatement
    · cases he
      exact hdatabase message

end Statements

/-! ### The cache -/

/-- What goes on from the descriptor of a type goes on from the one that is built for it. -/
theorem describe {type : EntityType} {f : Descriptor → Action α}
    (hf : Ensures mapper S E (f (Descriptor.build mapper.tableRule type))) :
    Ensures mapper S E (mapper.describe type >>= f) := by
  intro cache hc
  obtain ⟨cache', hc', hdescribe⟩ := Transparent.dialogue_describe hc type
  unfold Always
  rw [dialogue_bind, hdescribe]
  exact hf cache' hc'

/-- A statement that is kept is the one that would be built for the values. -/
theorem cachedQuery_bind {key : StatementKey} {vs : List Value} {template : Template}
    {f : Query → Action α} (hkey : mapper.template key = .ok template)
    (hvs : vs.length = template.arity)
    (herror : ∀ e, Query.build key.dialect.style (template.tokens vs) = .error e → E e)
    (hf : ∀ query, Query.build key.dialect.style (template.tokens vs) = .ok query →
      Ensures mapper S E (f query)) :
    Ensures mapper S E (Mapper.cachedQuery key vs template.tokens >>= f) := by
  intro cache hc
  obtain ⟨cache', hc', hquery⟩ := Transparent.dialogue_cachedQuery hc hkey hvs
  unfold Always
  rw [dialogue_bind, hquery]
  cases hbuild : Query.build key.dialect.style (template.tokens vs) with
  | ok query => exact hf query hbuild cache' hc'
  | error e =>
      refine ⟨hc', fun _ hcall => absurd hcall List.not_mem_nil, fun e' he => ?_⟩
      cases he
      exact herror e hbuild

end Ensures

/-! ### Walks -/

section Walks

variable (hE : ∀ e, e.overAnswer = true → E e)
include hE

/-- **What is said of the steps of a walk is ensured by it.** -/
theorem Walk.ensures {phase : Phase} {x : Action α} (h : Walk mapper True S E phase x) :
    Ensures mapper S E x := by
  have hdatabase (message : String) : E (.database message) := hE _ rfl
  induction h with
  | done a => exact .pure a
  | @step phase α β x f herror hf ih =>
      refine .lift_bind (fun e he => ?_) ih
      cases phase with
      | asking => exact herror e he
      | answered => exact hE e (herror e he)
  | describe hf ih => exact .describe (ih _ fun _ => rfl)
  | keep hkey herror hf ih =>
      obtain ⟨template, htemplate, rfl, hlength⟩ := hkey trivial
      exact .cachedQuery_bind htemplate hlength herror fun query hquery => ih query fun _ => hquery
  | query hquery hf ih => exact (Ensures.query hdatabase hquery).bind ih
  | exec hquery hf ih => exact (Ensures.exec hdatabase hquery).bind ih

/-- So it is by every operation. -/
theorem Course.ensures {inserted : Option Nat} {x : Action α}
    (h : Course mapper True S E inserted x) : Ensures mapper S E x := by
  cases h with
  | walk h => exact h.ensures hE
  | nothing type a => exact .describe (.pure a)
  | opening h =>
      exact .describe (.whileOpen (fun _ => hE _ rfl) ((h _ fun _ => rfl).ensures hE))

end Walks

end Action

/-- **On a valid cache an operation sends only statements that it may send**, and an error over a
missing value is that of an entity of it. -/
theorem Operation.ensures (mapper : Mapper) (operation : Operation) :
    Action.Ensures mapper (operation.MaySend mapper)
      (fun e => e.wantsValue = true → operation.Wants mapper e) (operation.action mapper) := by
  refine ((operation.course mapper True).ensures fun e he => ?_).mono
    (fun query hquery => hquery trivial) fun e he hwants => he hwants trivial
  exact Walk.wants_of_not (Error.wantsValue_of_overAnswer he)

end RowMapper
