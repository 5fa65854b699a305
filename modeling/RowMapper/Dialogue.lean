import RowMapper.Row

/-!
# Dialogues with a connection

An operation talks to a database through a connection.  A `Dialogue` is such an operation as data:
it is finished, or it makes a call and goes on with the answer.  What an operation sends can so be
read off without any database, and any connection can answer it.

* `Call`, `Call.Answer` — the calls of a connection and what it may answer;
* `Dialogue` — an operation, as a monad;
* `Dialogue.run` — the operation on a connection that is a function of a state.
-/

namespace RowMapper

/-- A call of a connection. -/
inductive Call where
  | isOpen
  | openUp
  | close
  /-- A statement that answers rows. -/
  | query (statement : Statement)
  /-- A statement that answers how many rows it affected. -/
  | exec (statement : Statement)
  deriving DecidableEq, Repr

/-- What a connection may answer to a call; a failure is its message. -/
def Call.Answer : Call → Type
  | isOpen => Bool
  | openUp => Except String Unit
  | close => Except String Unit
  | query _ => Except String (List Row)
  | exec _ => Except String UInt64

/-- An operation on a connection. -/
inductive Dialogue (α : Type) where
  | done (result : α)
  | ask (call : Call) (next : call.Answer → Dialogue α)

namespace Dialogue

variable {α β σ : Type}

/-- Goes on with the result of an operation. -/
def bind : Dialogue α → (α → Dialogue β) → Dialogue β
  | done result, f => f result
  | ask call next, f => ask call fun answer => (next answer).bind f

instance : Monad Dialogue where
  pure := done
  bind := bind

/-- The answer to one call. -/
def call (c : Call) : Dialogue c.Answer := ask c done

/-- The result of an operation on a connection, with the state in which it leaves the connection. -/
def run (answer : (c : Call) → σ → c.Answer × σ) : Dialogue α → σ → α × σ
  | done result, s => (result, s)
  | ask c next, s =>
    let (a, s) := answer c s
    run answer (next a) s

@[simp] theorem bind_done (a : α) (f : α → Dialogue β) : (done a).bind f = f a := rfl

@[simp] theorem bind_ask (c : Call) (next : c.Answer → Dialogue α) (f : α → Dialogue β) :
    (ask c next).bind f = ask c fun answer => (next answer).bind f := rfl

end Dialogue

end RowMapper
