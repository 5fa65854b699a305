import Mathlib.Data.List.Forall2
import RowMapper.Proofs.Mapper.Bracket

/-!
# Two runs side by side

Two requests are sent to two connections that answer both of them the same.  What is compared are
their calls, without the data of the statements.

* `Call.blank`, `Reply`, `Dialogue.replies` — a call without data, and what a connection answered;
* `Dialogue.Alike` — two dialogues that make the same calls but for data as long as they get the
  same replies, unless one of them is given up;
* `Dialogue.Alike.transcript` — on any two connections that reply the same they do;
* `Together`, `Refusing` — two results that go together, and checks that can only refuse;
* `Action.Alike` — two actions on valid caches, with its rules `Alike.bind` and companions.

### Requests that are refused

One of the two requests may be refused while the other one goes on, as one value can be bound and
another one cannot.  Nothing is said of the calls then.  Within an operation it is not known yet
whether it will be refused, so this way out is part of the relation (`Alike.left`, `Alike.right`)
and closed only in the end.

### Why one walk is not enough

A walk (`Action.Walk`) says what one action does.  Here two actions are to do the same, and the
values that go into their steps differ: whether the second one still keeps up after a step is known
from both of them.  So each rule takes a step of either action, and an operation is gone through
with its partner.
-/

namespace RowMapper

open Sql

/-- A call without the data of its statement. -/
def Call.blank : Call → Call
  | query statement => .query { statement with params := [] }
  | exec statement => .exec { statement with params := [] }
  | call => call

/-- What a connection has answered to a call. -/
inductive Reply where
  | isOpen (answer : Bool)
  | turned (answer : Except String Unit)
  | rows (answer : Except String (List Row))
  | affected (answer : Except String UInt64)

/-- The answer to a call, as a reply. -/
def Call.reply : (c : Call) → c.Answer → Reply
  | isOpen, answer => .isOpen answer
  | openUp, answer | close, answer => .turned answer
  | query _, answer => .rows answer
  | exec _, answer => .affected answer

/-! ### Dialogues -/

namespace Dialogue

variable {α β γ δ σ τ : Type}

/-- The replies that a dialogue gets on a connection, in their order. -/
def replies (answer : (c : Call) → σ → c.Answer × σ) : Dialogue α → σ → List Reply
  | done _, _ => []
  | ask c next, s =>
    let (a, s) := answer c s
    c.reply a :: (next a).replies answer s

/-- Two dialogues make the same calls but for data, as long as they get the same replies, and end
with related results; unless one of them is given up, whatever it is answered. -/
inductive Alike (X : α → Prop) (Y : β → Prop) (R : α → β → Prop) :
    Dialogue α → Dialogue β → Prop where
  | done {a : α} {b : β} (h : R a b) : Alike X Y R (.done a) (.done b)
  | ask {c d : Call} {x : c.Answer → Dialogue α} {y : d.Answer → Dialogue β}
      (hcall : c.blank = d.blank) (h : ∀ a b, c.reply a = d.reply b → Alike X Y R (x a) (y b)) :
      Alike X Y R (.ask c x) (.ask d y)
  | left {x : Dialogue α} {y : Dialogue β} (h : x.Always fun _ a => X a) : Alike X Y R x y
  | right {x : Dialogue α} {y : Dialogue β} (h : y.Always fun _ b => Y b) : Alike X Y R x y

/-- A reply says what the answer was. -/
theorem reply_inj {c : Call} {a b : c.Answer} (h : c.reply a = c.reply b) : a = b := by
  cases c <;> injection h

/-- Dialogues that make the same calls are alike. -/
theorem Rel.alike {X : α → Prop} {Y : β → Prop} {R : α → β → Prop} {x : Dialogue α}
    {y : Dialogue β} (h : Rel R x y) : Alike X Y R x y := by
  induction h with
  | done h => exact .done h
  | ask h ih => exact .ask rfl fun a b hab => reply_inj hab ▸ ih a

namespace Alike

variable {X : α → Prop} {Y : β → Prop} {R : α → β → Prop} {X' : γ → Prop} {Y' : δ → Prop}
  {S : γ → δ → Prop} {x : Dialogue α} {y : Dialogue β}

theorem mono {R' : α → β → Prop} (h : Alike X Y R x y) (hR : ∀ a b, R a b → R' a b) :
    Alike X Y R' x y := by
  induction h with
  | done h => exact .done (hR _ _ h)
  | ask hcall h ih => exact .ask hcall ih
  | left h => exact .left h
  | right h => exact .right h

/-- What goes on from related results, and stays given up if it was. -/
theorem bind {f : α → Dialogue γ} {g : β → Dialogue δ} (h : Alike X Y R x y)
    (hfg : ∀ a b, R a b → Alike X' Y' S (f a) (g b))
    (hf : ∀ a, X a → (f a).Always fun _ a => X' a)
    (hg : ∀ b, Y b → (g b).Always fun _ b => Y' b) : Alike X' Y' S (x.bind f) (y.bind g) := by
  induction h with
  | done h => exact hfg _ _ h
  | ask hcall h ih => exact .ask hcall ih
  | left h => exact .left (always_bind (h.mono fun _ a ha => hf a ha))
  | right h => exact .right (always_bind (h.mono fun _ b hb => hg b hb))

/-- **Dialogues that are alike make the same calls but for data.**  The two connections may be any
that reply the same to both, as far as both are replied to; and neither dialogue is given up. -/
theorem transcript (h : Alike X Y R x y) {answer : (c : Call) → σ → c.Answer × σ}
    {other : (c : Call) → τ → c.Answer × τ} {s : σ} {t : τ}
    (hreplies : ∀ pair ∈ (x.replies answer s).zip (y.replies other t), pair.1 = pair.2)
    (hx : ¬ X (x.transcript answer s).2.1) (hy : ¬ Y (y.transcript other t).2.1) :
    (x.transcript answer s).1.map Call.blank = (y.transcript other t).1.map Call.blank := by
  induction h generalizing s t with
  | done h => rfl
  | @ask c d x y hcall h ih =>
      have hfirst : c.reply (answer c s).1 = d.reply (other d t).1 := hreplies _ List.mem_cons_self
      have hrest := ih _ _ hfirst
        (fun pair hpair => hreplies pair (List.mem_cons_of_mem _ hpair)) hx hy
      rw [transcript_ask, transcript_ask, List.map_cons, List.map_cons, hcall, hrest]
  | left h => exact absurd (h.transcript answer s) hx
  | right h => exact absurd (h.transcript other t) hy

end Alike

end Dialogue

/-! ### Results -/

section Together

variable {α β γ δ : Type}

/-- Two results that go together: both are errors, or both are values that are related.  If one is
an error and the other is not, then it is an error that refuses. -/
def Together (Q : α → β → Prop) : Except Error α → Except Error β → Prop
  | .ok a, .ok b => Q a b
  | .error _, .error _ => True
  | .error e, .ok _ | .ok _, .error e => e.refuses = true

/-- A check that can only refuse. -/
def Refusing (x : Except Error α) : Prop := ∀ e, x = .error e → e.refuses = true

theorem Refusing.ok (a : α) : Refusing (.ok a : Except Error α) := fun _ he => by cases he

theorem Refusing.error {e : Error} (h : e.refuses = true) : Refusing (.error e : Except Error α) :=
  fun _ he => Except.error.inj he ▸ h

theorem Refusing.bind {x : Except Error α} {f : α → Except Error β} (hx : Refusing x)
    (hf : ∀ a, Refusing (f a)) : Refusing (x >>= f) := by
  cases x with
  | ok a => exact hf a
  | error e => exact .error (hx e rfl)

theorem Refusing.map {x : Except Error α} (hx : Refusing x) (f : α → β) : Refusing (f <$> x) := by
  cases x with
  | ok a => exact .ok _
  | error e => exact .error (hx e rfl)

/-- The same result on both sides. -/
theorem together_self (x : Except Error α) : Together (· = ·) x x := by
  cases x with
  | ok a => exact rfl
  | error e => exact trivial

theorem Together.imp {x : Except Error α} {y : Except Error β} {Q R : α → β → Prop}
    (h : Together Q x y) (hQR : ∀ a b, x = .ok a → y = .ok b → Q a b → R a b) :
    Together R x y := by
  cases x with
  | ok a =>
      cases y with
      | ok b => exact hQR a b rfl rfl h
      | error e => exact h
  | error e => cases y <;> exact h

theorem Together.bind {x : Except Error α} {y : Except Error β} {Q : α → β → Prop}
    {R : γ → δ → Prop} {f : α → Except Error γ} {g : β → Except Error δ} (h : Together Q x y)
    (hfg : ∀ a b, Q a b → Together R (f a) (g b)) : Together R (x >>= f) (y >>= g) := by
  cases x with
  | ok a =>
      cases y with
      | ok b => exact hfg a b h
      | error e =>
          -- the refusal on one side stays one, whatever comes of the other
          show Together R (f a) (.error e)
          cases f a <;> first | exact trivial | exact h
  | error e =>
      cases y with
      | ok b =>
          show Together R (.error e) (g b)
          cases g b <;> first | exact trivial | exact h
      | error e' => exact trivial

/-- Of two checks that can only refuse, only the values have to be compared. -/
theorem Refusing.together {x : Except Error α} {y : Except Error β} {Q : α → β → Prop}
    (hx : Refusing x) (hy : Refusing y) (h : ∀ a b, x = .ok a → y = .ok b → Q a b) :
    Together Q x y := by
  cases x with
  | ok a =>
      cases y with
      | ok b => exact h a b rfl rfl
      | error e => exact hy e rfl
  | error e =>
      cases y with
      | ok b => exact hx e rfl
      | error e' => exact trivial

theorem refusing_toDatum (v : Value) : Refusing v.toDatum := by
  cases v with
  | zoned v => exact .error rfl
  | _ => exact .ok _

/-- A statement is refused over a value that cannot be bound. -/
theorem refusing_build (style : Style) (tokens : List Token) :
    Refusing (Query.build style tokens) := by
  have hdata : Refusing (Value.toData (values tokens)) := by
    intro e he
    obtain ⟨v, -, hv⟩ := exists_of_mapM_eq_error he
    exact refusing_toDatum v e hv
  exact hdata.bind fun _ => .ok _

/-- Tokens that are the same but for values are built to the same text. -/
theorem together_build (style : Style) {a b : List Token}
    (h : a.map Token.blank = b.map Token.blank) :
    Together (fun q r : Query => q.sql = r.sql) (Query.build style a) (Query.build style b) := by
  refine (refusing_build style a).together (refusing_build style b) fun q r hq hr => ?_
  rw [Action.Transparent.sql_of_build hq, Action.Transparent.sql_of_build hr,
    write_eq_of_blank style h]

end Together

/-! ### Actions -/

/-- An operation has ended with an error that refuses it. -/
def Refused {α : Type} (ending : Except Error α × Cache) : Prop :=
  ∃ e, ending.1 = .error e ∧ e.refuses = true

namespace Action

variable {mapper : Mapper} {α β γ δ : Type}

/-- Two actions on valid caches make the same calls but for data, as long as they get the same
replies, and end with related results; unless one of them is refused. -/
def Alike (mapper : Mapper) (R : Except Error α → Except Error β → Prop) (x : Action α)
    (y : Action β) : Prop :=
  ∀ c d : Cache, c.Valid mapper → d.Valid mapper →
    Dialogue.Alike Refused Refused
      (fun p q => R p.1 q.1 ∧ p.2.Valid mapper ∧ q.2.Valid mapper) (x.dialogue c) (y.dialogue d)

/-- Two actions that can go on from their results. -/
abbrev InStep (mapper : Mapper) (Q : α → β → Prop) (x : Action α) (y : Action β) : Prop :=
  Alike mapper (Together Q) x y

/-- Two actions of whose results nothing is known. -/
abbrev SameText (mapper : Mapper) (x : Action α) (y : Action β) : Prop :=
  Alike mapper (fun _ _ => True) x y

section Rules

variable {Q : α → β → Prop} {x : Action α} {y : Action β}

theorem Alike.sameText {R : Except Error α → Except Error β → Prop} (h : Alike mapper R x y) :
    SameText mapper x y :=
  fun c d hc hd => (h c d hc hd).mono fun _ _ hends => ⟨trivial, hends.2⟩

/-- What goes on from results that go together. -/
theorem Alike.bind {R : Except Error γ → Except Error δ → Prop} {f : α → Action γ}
    {g : β → Action δ} (hx : InStep mapper Q x y)
    (hf : ∀ a b, Q a b → Alike mapper R (f a) (g b)) (hR : ∀ e e', R (.error e) (.error e')) :
    Alike mapper R (x >>= f) (y >>= g) := by
  intro c d hc hd
  rw [dialogue_bind, dialogue_bind]
  refine (hx c d hc hd).bind (fun p q hends => ?_) (fun p hp => ?_) fun q hq => ?_
  · obtain ⟨result, c⟩ := p
    obtain ⟨result', d⟩ := q
    obtain ⟨htogether, hc, hd⟩ := hends
    cases result with
    | ok a =>
        cases result' with
        | ok b => exact hf a b htogether c d hc hd
        | error e => exact .right ⟨e, rfl, htogether⟩
    | error e =>
        cases result' with
        | ok b => exact .left ⟨e, rfl, htogether⟩
        | error e' => exact .done ⟨hR e e', hc, hd⟩
  · obtain ⟨result, c⟩ := p
    obtain ⟨e, rfl, he⟩ := hp
    exact ⟨e, rfl, he⟩
  · obtain ⟨result, d⟩ := q
    obtain ⟨e, rfl, he⟩ := hq
    exact ⟨e, rfl, he⟩

theorem SameText.bind {f : α → Action γ} {g : β → Action δ} (hx : InStep mapper Q x y)
    (hf : ∀ a b, Q a b → SameText mapper (f a) (g b)) : SameText mapper (x >>= f) (y >>= g) :=
  Alike.bind hx hf fun _ _ => trivial

/-- What cannot talk makes no calls. -/
theorem SameText.lift (x : Except Error α) (y : Except Error β) :
    SameText mapper (liftM x : Action α) (liftM y : Action β) :=
  fun _ _ hc hd => .done ⟨trivial, hc, hd⟩

namespace InStep

theorem pure {a : α} {b : β} (h : Q a b) :
    InStep mapper Q (pure a : Action α) (pure b : Action β) :=
  fun _ _ hc hd => .done ⟨h, hc, hd⟩

/-- Two steps that cannot talk. -/
theorem lift {x : Except Error α} {y : Except Error β} (h : Together Q x y) :
    InStep mapper Q (liftM x : Action α) (liftM y : Action β) :=
  fun _ _ hc hd => .done ⟨h, hc, hd⟩

/-- The same step on both sides. -/
theorem lift_self (x : Except Error α) :
    InStep mapper (· = ·) (liftM x : Action α) (liftM x : Action α) :=
  lift (together_self x)

theorem bind {S : γ → δ → Prop} {f : α → Action γ} {g : β → Action δ}
    (hx : InStep mapper Q x y) (hf : ∀ a b, Q a b → InStep mapper S (f a) (g b)) :
    InStep mapper S (x >>= f) (y >>= g) :=
  Alike.bind hx hf fun _ _ => trivial

/-- The same result on both sides, and what goes on from it. -/
theorem bind_eq {S : γ → δ → Prop} {x y : Action α} {f : α → Action γ} {g : α → Action δ}
    (hx : InStep mapper (· = ·) x y) (hf : ∀ a, InStep mapper S (f a) (g a)) :
    InStep mapper S (x >>= f) (y >>= g) :=
  bind hx fun a _ hab => hab ▸ hf a

/-- The same step on both sides, and what goes on from its result. -/
theorem same_bind {S : γ → δ → Prop} {x : Except Error α} {f : α → Action γ} {g : α → Action δ}
    (hf : ∀ a, x = .ok a → InStep mapper S (f a) (g a)) :
    InStep mapper S ((liftM x : Action α) >>= f) ((liftM x : Action α) >>= g) := by
  have hsame : Together (fun a b => x = .ok a ∧ x = .ok b) x x :=
    (together_self x).imp fun a b ha hb _ => ⟨ha, hb⟩
  refine bind (lift hsame) fun a b hab => ?_
  obtain rfl : a = b := Except.ok.inj (hab.1.symm.trans hab.2)
  exact hf a hab.1

theorem throw_bind {S : γ → δ → Prop} (e e' : Error) (f : α → Action γ) (g : β → Action δ) :
    InStep mapper S ((MonadExcept.throw e : Action α) >>= f)
      ((MonadExcept.throw e' : Action β) >>= g) :=
  fun _ _ hc hd => .done ⟨trivial, hc, hd⟩

/-- The same choice on both sides. -/
theorem ite {p : Prop} [Decidable p] {x' : Action α} {y' : Action β} (h : InStep mapper Q x y)
    (h' : InStep mapper Q x' y') :
    InStep mapper Q (if p then x else x') (if p then y else y') := by
  split
  · exact h
  · exact h'

theorem mapM {f : α → Action γ} {g : β → Action δ} {S : γ → δ → Prop} {as : List α} {bs : List β}
    (h : List.Forall₂ (fun a b => InStep mapper S (f a) (g b)) as bs) :
    InStep mapper (List.Forall₂ S) (as.mapM f) (bs.mapM g) := by
  induction h with
  | nil => exact pure .nil
  | cons hab h ih =>
      rw [List.mapM_cons, List.mapM_cons]
      exact hab.bind fun _ _ hfirst => ih.bind fun _ _ hrest => pure (.cons hfirst hrest)

/-! ### Calls -/

/-- An action to which the cache makes no difference goes together with itself. -/
theorem of_transparent {x : Action α} (hx : Transparent mapper x) :
    InStep mapper (· = ·) x x := by
  intro c d hc hd
  refine (hx c d hc hd).alike.mono fun p q hends => ⟨?_, hends.2⟩
  rw [hends.1]
  exact together_self q.1

theorem call {c d : Call} (h : c.blank = d.blank) :
    InStep mapper (fun a b => c.reply a = d.reply b) (Action.call c) (Action.call d) :=
  fun _ _ hc hd => .ask h fun _ _ hab => .done ⟨hab, hc, hd⟩

theorem ofAnswer (x : Except String α) :
    InStep mapper (· = ·) (Action.ofAnswer x) (Action.ofAnswer x) := by
  cases x with
  | ok a => exact pure rfl
  | error message => exact fun _ _ hc hd => .done ⟨trivial, hc, hd⟩

/-- Two statements with one text are answered with the same rows. -/
theorem query {sender : Mapper} {q r : Query} (h : q.sql = r.sql) :
    InStep mapper (· = ·) (sender.query q) (sender.query r) := by
  have hblank : (Call.query (sender.statement q)).blank =
      (Call.query (sender.statement r)).blank := by
    simp only [Call.blank, Mapper.statement, h]
  refine (call hblank).bind fun a b hab => ?_
  obtain rfl : a = b := Reply.rows.inj hab
  exact ofAnswer a

/-- Two statements with one text affect the same number of rows. -/
theorem exec {sender : Mapper} {q r : Query} (h : q.sql = r.sql) :
    InStep mapper (· = ·) (sender.exec q) (sender.exec r) := by
  have hblank : (Call.exec (sender.statement q)).blank =
      (Call.exec (sender.statement r)).blank := by
    simp only [Call.blank, Mapper.statement, h]
  refine (call hblank).bind fun a b hab => ?_
  obtain rfl : a = b := Reply.affected.inj hab
  exact ofAnswer a

/-- Two connections are opened and closed at the same places.  One that is refused in between is
closed all the same, and still refused. -/
theorem whileOpen (h : InStep mapper Q x y) :
    InStep mapper Q (Mapper.whileOpen x) (Mapper.whileOpen y) := by
  intro c d hc hd
  rw [dialogue_whileOpen, dialogue_whileOpen]
  refine .ask rfl fun (isOpen isOpen' : Bool) hisOpen => ?_
  obtain rfl : isOpen = isOpen' := Reply.isOpen.inj hisOpen
  cases isOpen with
  | true => exact h c d hc hd
  | false =>
      refine .ask rfl fun (opened opened' : Except String Unit) hopened => ?_
      obtain rfl : opened = opened' := Reply.turned.inj hopened
      cases opened with
      | error message => exact .done ⟨trivial, hc, hd⟩
      | ok u =>
          refine (h c d hc hd).bind (fun p q hends => ?_) (fun p hp => fun _ => hp) fun q hq =>
            fun _ => hq
          exact .ask rfl fun _ _ _ => .done hends

end InStep

end Rules

/-! ### The cache -/

/-- What goes on from the descriptor of a type goes on from the same one on both sides. -/
theorem Alike.describe {type : EntityType} {R : Except Error α → Except Error β → Prop}
    {f : Descriptor → Action α} {g : Descriptor → Action β}
    (hf : Alike mapper R (f (Descriptor.build mapper.tableRule type))
      (g (Descriptor.build mapper.tableRule type))) :
    Alike mapper R (mapper.describe type >>= f) (mapper.describe type >>= g) := by
  intro c d hc hd
  obtain ⟨c', hc', hcd⟩ := Transparent.dialogue_describe hc type
  obtain ⟨d', hd', hdd⟩ := Transparent.dialogue_describe hd type
  rw [dialogue_bind, dialogue_bind, hcd, hdd]
  exact hf c' d' hc' hd'

/-- A statement that depends on the type only has one text, whether it was kept on both sides, on
one of them or on neither. -/
theorem InStep.cachedQuery {key : StatementKey} {vs ws : List Value} {template : Template}
    (hkey : mapper.template key = .ok template) (hvs : vs.length = template.arity)
    (hws : ws.length = template.arity) :
    InStep mapper (fun q r : Query => q.sql = r.sql)
      (Mapper.cachedQuery key vs template.tokens) (Mapper.cachedQuery key ws template.tokens) := by
  intro c d hc hd
  obtain ⟨c', hc', hcd⟩ := Transparent.dialogue_cachedQuery hc hkey hvs
  obtain ⟨d', hd', hdd⟩ := Transparent.dialogue_cachedQuery hd hkey hws
  rw [hcd, hdd]
  exact .done ⟨together_build _ (template.blank_tokens vs ws hvs hws), hc', hd'⟩

end Action

end RowMapper
