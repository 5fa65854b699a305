import RowMapper.Dialogue

/-!
# Recording connections

A connection without a database: it records the statements that are sent to it and answers from
queues.  What an operation of the mapper sends and how it takes failures is seen on it.
-/

namespace RowMapper

/-- The calls that may be made to fail. -/
inductive CallKind where
  | openUp
  | close
  | query
  | exec
  deriving DecidableEq, Repr

/-- The kind of call of a name. -/
def CallKind.ofName? : String → Option CallKind
  | "open" => some openUp
  | "close" => some close
  | "query" => some query
  | "exec" => some exec
  | _ => none

/-- A connection that records. -/
structure Recording where
  typeName : String
  isOpen : Bool
  /-- How often the connection was opened. -/
  opened : Nat
  /-- How often the connection was closed. -/
  closed : Nat
  /-- The rows of the next queries. -/
  rows : List (List Row)
  /-- The counts of the next statements without rows. -/
  affected : List UInt64
  /-- The failures of the next calls of each kind, with their messages. -/
  failures : List (CallKind × String)
  /-- The statements that were sent, the last one first. -/
  sent : List Call

namespace Recording

/-- A connection of a type to which nothing was sent. -/
def start (typeName : String) (isOpen : Bool) : Recording :=
  ⟨typeName, isOpen, 0, 0, [], [], [], []⟩

/-- The next failure of a kind of call, which is then done with. -/
def nextFailure (recording : Recording) (kind : CallKind) : Option String × Recording :=
  (recording.failures.lookup kind,
    { recording with failures := recording.failures.eraseP (·.1 == kind) })

/-- Records a call and runs what it does on an open connection, unless it is to fail. -/
def record {α : Type} (recording : Recording) (kind : CallKind) (call : Call)
    (next : Recording → α × Recording) : Except String α × Recording :=
  if !recording.isOpen then (.error "connection is closed", recording)
  else
    match { recording with sent := call :: recording.sent }.nextFailure kind with
    | (some message, recording) => (.error message, recording)
    | (none, recording) =>
      let (a, recording) := next recording
      (.ok a, recording)

/-- The answer to a call. -/
def answer : (call : Call) → Recording → call.Answer × Recording
  | .isOpen, recording => (recording.isOpen, recording)
  | .openUp, recording =>
    match recording.nextFailure .openUp with
    | (some message, recording) => (.error message, recording)
    | (none, recording) =>
      (.ok (), { recording with isOpen := true, opened := recording.opened + 1 })
  | .close, recording =>
    match { recording with isOpen := false, closed := recording.closed + 1 }.nextFailure
        .close with
    | (some message, recording) => (.error message, recording)
    | (none, recording) => (.ok (), recording)
  | .query statement, recording =>
    recording.record .query (.query statement) fun recording =>
      (recording.rows.headD [], { recording with rows := recording.rows.tail })
  | .exec statement, recording =>
    recording.record .exec (.exec statement) fun recording =>
      (recording.affected.headD 1, { recording with affected := recording.affected.tail })

end Recording

end RowMapper
