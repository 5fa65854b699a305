import RowMapper.Mapper.Basic
import RowMapper.Recording

/-!
# Sessions

One mapper works on several recording connections, and keeps its cache from operation to operation.
-/

namespace RowMapper

/-- A mapper at work. -/
structure Session where
  mapper : Mapper
  cache : Cache
  connections : List Recording

namespace Session

variable {α : Type}

/-- A session before any operation. -/
def start (mapper : Mapper) (connections : List Recording) : Session :=
  ⟨mapper, .empty, connections⟩

/-- The connection of a number. -/
def connection (session : Session) (index : Nat) : Recording :=
  session.connections.getD index (Recording.start "" false)

/-- The session after something was done to a connection. -/
def change (session : Session) (index : Nat) (f : Recording → Recording) : Session :=
  { session with connections := session.connections.modify index f }

/-- Runs an operation of the mapper on a connection. -/
def run (session : Session) (index : Nat) (operation : StateT Cache Dialogue α) : α × Session :=
  let ((outcome, cache), recording) :=
    (operation.run session.cache).run Recording.answer (session.connection index)
  (outcome, { session.change index fun _ => recording with cache })

/-- The calls that were sent to a connection since an earlier state of the session. -/
def sentSince (earlier later : Session) (index : Nat) : List Call :=
  let sent := (later.connection index).sent
  (sent.take (sent.length - (earlier.connection index).sent.length)).reverse

end Session

end RowMapper
