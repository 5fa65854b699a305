import RowMapper.Proofs.Mapper.Caching

/-!
# The walk of an operation

All operations of a mapper are put together in one way.  They look at the request, take the text
of a statement from the cache or write it, send it, and look at what was answered.  What is shown of
all of them is shown along this walk, and not for one operation after the other.

* `Action.Walk` — an action is put together in this way, from statements and errors of a kind;
* `Walk.bind`, `Walk.result`, `Walk.throw_bind`, `Walk.ite` — walks are put together from walks;
* `Walk.transparent` — the cache makes no difference to a walk;
* `Action.Course` — an operation is a walk, or opens a connection for one, or does nothing.

### Two phases

An operation that is refused has sent nothing and kept nothing.  That is so because what can be
wrong with a request is looked at before the first text is taken from the cache, and what comes
after it fails over an answer only.  So a walk knows its `Phase`, and the errors of a step are
limited by it (`Phase.Admits`).

### Two kinds of caches

Some of what is shown holds on valid caches, and some on any caches whatever.  The descriptor of a
type and a text that was kept are what they should be on a valid cache only.  A walk has a
proposition `valid` in front of what it says about them: with `True` it is a walk on valid caches,
with `False` one on any caches.
-/

namespace RowMapper

open Sql

/-- Whether an error is over what the connection has answered, and not over the request. -/
def Error.overAnswer : Error → Bool
  | mapping .. | database _ => true
  | invalidOperation (.nullSortValue _) | invalidOperation (.badIdentity ..) => true
  | _ => false

/-- How far an operation has come: it is about the request, or about what was answered. -/
inductive Phase where
  | asking
  | answered

/-- The errors that a step may end with.  Those over the request are of a kind. -/
def Phase.Admits (E : Error → Prop) : Phase → Error → Prop
  | asking => E
  | answered => fun e => e.overAnswer = true

namespace Action

/-- An action is put together from steps that cannot talk, the descriptor of a type, and statements
with the queries `S`.  Its errors over the request are `E`. -/
inductive Walk (mapper : Mapper) (valid : Prop) (S : Query → Prop) (E : Error → Prop) :
    Phase → {α : Type} → Action α → Prop where
  | done {phase : Phase} {α : Type} (a : α) : Walk mapper valid S E phase (pure a : Action α)
  /-- A step that cannot talk. -/
  | step {phase : Phase} {α β : Type} {x : Except Error α} {f : α → Action β}
      (herror : ∀ e, x = .error e → phase.Admits E e)
      (hf : ∀ a, x = .ok a → Walk mapper valid S E phase (f a)) :
      Walk mapper valid S E phase ((liftM x : Action α) >>= f)
  | describe {α : Type} {type : EntityType} {f : Descriptor → Action α}
      (hf : ∀ descriptor, (valid → descriptor = Descriptor.build mapper.tableRule type) →
        Walk mapper valid S E .asking (f descriptor)) :
      Walk mapper valid S E .asking (mapper.describe type >>= f)
  /-- A statement whose text may be kept.  From here on the operation is not refused. -/
  | keep {α : Type} {key : StatementKey} {vs : List Value} {tokens : List Value → List Token}
      {f : Query → Action α}
      (hkey : valid → ∃ template, mapper.template key = .ok template ∧ template.tokens = tokens ∧
        vs.length = template.arity)
      (herror : ∀ e, Query.build key.dialect.style (tokens vs) = .error e → E e)
      (hf : ∀ query, (valid → Query.build key.dialect.style (tokens vs) = .ok query) →
        Walk mapper valid S E .answered (f query)) :
      Walk mapper valid S E .asking (Mapper.cachedQuery key vs tokens >>= f)
  | query {phase : Phase} {α : Type} {query : Query} {f : List Row → Action α} (hquery : S query)
      (hf : ∀ rows, Walk mapper valid S E .answered (f rows)) :
      Walk mapper valid S E phase (mapper.query query >>= f)
  | exec {phase : Phase} {α : Type} {query : Query} {f : UInt64 → Action α} (hquery : S query)
      (hf : ∀ affected, Walk mapper valid S E .answered (f affected)) :
      Walk mapper valid S E phase (mapper.exec query >>= f)

namespace Walk

variable {mapper : Mapper} {valid : Prop} {S : Query → Prop} {E : Error → Prop} {phase : Phase}
  {α β : Type}

/-- A step that cannot talk, as the last one. -/
theorem result {x : Except Error α} (herror : ∀ e, x = .error e → phase.Admits E e) :
    Walk mapper valid S E phase (liftM x : Action α) := by
  rw [← bind_pure (liftM x : Action α)]
  exact step herror fun a _ => done a

theorem throw_bind {e : Error} (h : phase.Admits E e) (f : α → Action β) :
    Walk mapper valid S E phase ((MonadExcept.throw e : Action α) >>= f) :=
  step (x := .error e) (fun _ he => Except.error.inj he ▸ h) fun _ ha => nomatch ha

theorem ite {p : Prop} [Decidable p] {x y : Action α} (hx : Walk mapper valid S E phase x)
    (hy : Walk mapper valid S E phase y) : Walk mapper valid S E phase (if p then x else y) := by
  split
  · exact hx
  · exact hy

section Bind

variable (hE : ∀ e, e.overAnswer = true → E e)
include hE

/-- What may follow an answer may follow anything. -/
theorem of_answered {x : Action α} (h : Walk mapper valid S E .answered x) :
    Walk mapper valid S E phase x := by
  generalize hphase : Phase.answered = before at h
  induction h with
  | done a => exact done a
  | step herror hf ih =>
      subst hphase
      refine step (fun e he => ?_) fun a ha => ih a ha rfl
      cases phase with
      | asking => exact hE e (herror e he)
      | answered => exact herror e he
  | describe hf ih => cases hphase
  | keep hkey herror hf ih => cases hphase
  | query hquery hf ih => exact query hquery hf
  | exec hquery hf ih => exact exec hquery hf

/-- A walk goes on with what follows an answer. -/
theorem bind {x : Action α} {f : α → Action β} (hx : Walk mapper valid S E phase x)
    (hf : ∀ a, Walk mapper valid S E .answered (f a)) : Walk mapper valid S E phase (x >>= f) := by
  induction hx with
  | done a =>
      rw [pure_bind]
      exact (hf a).of_answered hE
  | step herror _ ih =>
      rw [bind_assoc]
      exact step herror fun a ha => ih a ha hf
  | describe _ ih =>
      rw [bind_assoc]
      exact describe fun descriptor hdescriptor => ih descriptor hdescriptor hf
  | keep hkey herror _ ih =>
      rw [bind_assoc]
      exact keep hkey herror fun query hquery => ih query hquery hf
  | query hquery _ ih =>
      rw [bind_assoc]
      exact query hquery fun rows => ih rows hf
  | exec hquery _ ih =>
      rw [bind_assoc]
      exact exec hquery fun affected => ih affected hf

end Bind

/-- **The cache makes no difference to a walk.** -/
theorem transparent {x : Action α} (h : Walk mapper True S E phase x) : Transparent mapper x := by
  induction h with
  | done a => exact .pure a
  | step _ _ ih => exact .lift_bind ih
  | describe _ ih => exact .describe (ih _ fun _ => rfl)
  | keep hkey _ _ ih =>
      obtain ⟨template, htemplate, rfl, hlength⟩ := hkey trivial
      exact .cachedQuery_bind htemplate hlength fun query hquery => ih query fun _ => hquery
  | query _ _ ih => exact (Transparent.query _).bind ih
  | exec _ _ ih => exact (Transparent.exec _).bind ih

end Walk

/-- An operation by the number of entities that it inserts, if it is one that inserts: it is a walk,
it does nothing, or it is a walk on an open connection. -/
inductive Course (mapper : Mapper) (valid : Prop) (S : Query → Prop) (E : Error → Prop) {α : Type} :
    Option Nat → Action α → Prop where
  | walk {x : Action α} (h : Walk mapper valid S E .asking x) : Course mapper valid S E none x
  | nothing (type : EntityType) (a : α) :
      Course mapper valid S E (some 0) (mapper.describe type >>= fun _ => pure a)
  | opening {n : Nat} {type : EntityType} {body : Descriptor → Action α}
      (h : ∀ descriptor, (valid → descriptor = Descriptor.build mapper.tableRule type) →
        Walk mapper valid S E .asking (body descriptor)) :
      Course mapper valid S E (some (n + 1))
        (mapper.describe type >>= fun descriptor => Mapper.whileOpen (body descriptor))

/-- The cache makes no difference to an operation. -/
theorem Course.transparent {mapper : Mapper} {S : Query → Prop} {E : Error → Prop} {α : Type}
    {inserted : Option Nat} {x : Action α} (h : Course mapper True S E inserted x) :
    Transparent mapper x := by
  cases h with
  | walk h => exact h.transparent
  | nothing type a => exact .describe (.pure a)
  | opening h => exact .describe (.whileOpen (h _ fun _ => rfl).transparent)

end Action

end RowMapper
