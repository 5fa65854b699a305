import RowMapper.Proofs.Filter.Where
import RowMapper.Proofs.Mapper.Checking
import RowMapper.Recording

/-!
# Inserts bracket a closed connection

An insert leaves an open connection alone.  A closed one it opens before its first statement and
closes after its last, whatever went wrong in between, and no other operation does either.

* `dialogue_whileOpen` — the calls around an operation on an open connection;
* `Bracketed` — the calls of an insert and its result, by what the connection answers;
* `Operation.calls_bracketed` — the calls of every operation.

### What is between the brackets

Nothing needs to be known about the statements of an insert but that they are statements
(`ChecksFirst`).  A step that fails ends the body and not the operation: the body is run to its
outcome, and the connection is closed before that outcome is looked at.
-/

namespace RowMapper

open Sql

namespace Action

variable {mapper : Mapper} {α σ : Type}

/-- The calls around an operation on an open connection. -/
theorem dialogue_whileOpen (body : Action α) (cache : Cache) :
    (Mapper.whileOpen body).dialogue cache = .ask .isOpen fun (isOpen : Bool) =>
      if isOpen then body.dialogue cache
      else .ask .openUp fun (opened : Except String Unit) =>
        match opened with
        | .error message => .done (.error (.database message), cache)
        | .ok () => (body.dialogue cache).bind fun ending => .ask .close fun _ => .done ending := by
  show Dialogue.ask _ _ = _
  congr 1
  funext (isOpen : Bool)
  cases isOpen with
  | true => rfl
  | false =>
      show Dialogue.ask _ _ = Dialogue.ask _ _
      congr 1
      funext (opened : Except String Unit)
      cases opened with
      | error message => rfl
      | ok u =>
          show ((liftM (m := StateT Cache Dialogue) body.run : Action _) >>= fun result =>
            Action.call .close >>= fun _ => Mapper.whileOpen.liftExcept result).dialogue cache = _
          rw [dialogue_bind, dialogue_outcome, Dialogue.bind_assoc]
          congr 1
          funext ending
          obtain ⟨result, later⟩ := ending
          cases result <;> rfl

/-- The connection is looked at, and the calls of the body are made on an open connection. -/
theorem always_whileOpen {body : Action α} {cache : Cache}
    {P : List Call → Except Error α → Cache → Prop} (h : body.Always cache P) :
    (Mapper.whileOpen body).Always cache fun sent result cache' =>
      (∃ inner, P inner result cache' ∧
        (sent = .isOpen :: inner ∨ sent = .isOpen :: .openUp :: (inner ++ [.close]))) ∨
      ∃ message, sent = [.isOpen, .openUp] ∧ result = .error (.database message) ∧
        cache' = cache := by
  unfold Always
  rw [dialogue_whileOpen]
  intro (isOpen : Bool)
  cases isOpen with
  | true =>
      exact Dialogue.Always.mono h fun sent ending hP => .inl ⟨sent, hP, .inl rfl⟩
  | false =>
      intro (opened : Except String Unit)
      cases opened with
      | error message => exact .inr ⟨message, rfl, rfl, rfl⟩
      | ok u =>
          refine Dialogue.always_bind (Dialogue.Always.mono h fun sent ending hP => ?_)
          exact fun _ => .inl ⟨sent, hP, .inr rfl⟩

end Action

/-! ### Brackets -/

section Bracketed

variable {α σ : Type}

/-- The calls of an insert on a connection, and its result. -/
inductive Bracketed (answer : (c : Call) → σ → c.Answer × σ) (s : σ) :
    List Call → Except Error α → Prop where
  /-- An open connection is neither opened nor closed. -/
  | inside {sent : List Call} {result : Except Error α} (hopen : (answer .isOpen s).1 = true)
    (hsent : ∀ call ∈ sent, call.isStatement = true) :
    Bracketed answer s (.isOpen :: sent) result
  /-- A closed connection that cannot be opened is left there, and its error is the result. -/
  | shut {message : String} (hclosed : (answer .isOpen s).1 = false)
    (hopened : (answer .openUp (answer .isOpen s).2).1 = .error message) :
    Bracketed answer s [.isOpen, .openUp] (.error (.database message))
  /-- A closed connection is opened before all statements and closed after them. -/
  | around {sent : List Call} {result : Except Error α} (hclosed : (answer .isOpen s).1 = false)
    (hopened : (answer .openUp (answer .isOpen s).2).1 = .ok ())
    (hsent : ∀ call ∈ sent, call.isStatement = true) :
    Bracketed answer s (.isOpen :: .openUp :: (sent ++ [.close])) result

variable {body : Action α} {cache : Cache} {answer other : (c : Call) → σ → c.Answer × σ}

/-- On an open connection the calls are those of the body. -/
theorem transcript_whileOpen_of_open {s : σ} (hopen : (answer .isOpen s).1 = true) :
    ((Mapper.whileOpen body).dialogue cache).transcript answer s =
      (.isOpen :: ((body.dialogue cache).transcript answer (answer .isOpen s).2).1,
        ((body.dialogue cache).transcript answer (answer .isOpen s).2).2) := by
  rw [Action.dialogue_whileOpen]
  simp only [Dialogue.transcript, hopen, if_true]

theorem transcript_whileOpen_of_shut {s : σ} {message : String}
    (hclosed : (answer .isOpen s).1 = false)
    (hopened : (answer .openUp (answer .isOpen s).2).1 = .error message) :
    ((Mapper.whileOpen body).dialogue cache).transcript answer s =
      ([.isOpen, .openUp], (.error (.database message), cache),
        (answer .openUp (answer .isOpen s).2).2) := by
  rw [Action.dialogue_whileOpen]
  simp only [Dialogue.transcript, hclosed, hopened, Bool.false_eq_true, if_false]

/-- A closed connection that could be opened is closed after the calls of the body, with the
result that was there before. -/
theorem transcript_whileOpen_of_opened {s opened : σ}
    (hclosed : (answer .isOpen s).1 = false)
    (hopened : answer .openUp (answer .isOpen s).2 = (.ok (), opened)) :
    ((Mapper.whileOpen body).dialogue cache).transcript answer s =
      (.isOpen :: .openUp :: (((body.dialogue cache).transcript answer opened).1 ++ [.close]),
        ((body.dialogue cache).transcript answer opened).2.1,
        (answer .close ((body.dialogue cache).transcript answer opened).2.2).2) := by
  rw [Action.dialogue_whileOpen]
  simp only [Dialogue.transcript, hclosed, hopened, Bool.false_eq_true, if_false,
    Dialogue.transcript_bind]

/-- How the connection answers on its way to the body decides the form of the run. -/
theorem bracketed_whileOpen
    (hbody : body.Always cache fun sent _ _ => ∀ call ∈ sent, call.isStatement = true) (s : σ) :
    Bracketed answer s (((Mapper.whileOpen body).dialogue cache).transcript answer s).1
      (((Mapper.whileOpen body).dialogue cache).transcript answer s).2.1.1 := by
  cases hopen : ((answer .isOpen s).1 : Bool) with
  | true =>
      rw [transcript_whileOpen_of_open hopen]
      exact .inside hopen (hbody.transcript answer _)
  | false =>
      cases hopened : answer .openUp (answer .isOpen s).2 with
      | mk opened later =>
          cases opened with
          | error message =>
              have hshut := congrArg Prod.fst hopened
              rw [transcript_whileOpen_of_shut hopen hshut]
              exact .shut hopen hshut
          | ok u =>
              rw [transcript_whileOpen_of_opened hopen hopened]
              exact .around hopen (congrArg Prod.fst hopened) (hbody.transcript answer _)

/-- What the connection answers to being closed is not looked at. -/
theorem transcript_whileOpen_congr
    (hbody : body.Always cache fun sent _ _ => ∀ call ∈ sent, call.isStatement = true)
    (hsame : ∀ c s, c ≠ .close → other c s = answer c s) (s : σ) :
    (((Mapper.whileOpen body).dialogue cache).transcript other s).1 =
        (((Mapper.whileOpen body).dialogue cache).transcript answer s).1 ∧
      (((Mapper.whileOpen body).dialogue cache).transcript other s).2.1 =
        (((Mapper.whileOpen body).dialogue cache).transcript answer s).2.1 := by
  have hstatements (s : σ) :
      (body.dialogue cache).transcript other s = (body.dialogue cache).transcript answer s :=
    Dialogue.Always.transcript_congr hbody
      (fun c s hc => hsame c s (by rintro rfl; cases hc)) s
  have hlook := hsame .isOpen s (by decide)
  have hopening : other .openUp (other .isOpen s).2 = answer .openUp (answer .isOpen s).2 := by
    rw [hlook, hsame .openUp _ (by decide)]
  cases hopen : ((answer .isOpen s).1 : Bool) with
  | true =>
      have hopen' : (other .isOpen s).1 = true := by rw [hlook]; exact hopen
      rw [transcript_whileOpen_of_open hopen, transcript_whileOpen_of_open hopen', hstatements,
        hlook]
      exact ⟨rfl, rfl⟩
  | false =>
      have hopen' : (other .isOpen s).1 = false := by rw [hlook]; exact hopen
      cases hopened : answer .openUp (answer .isOpen s).2 with
      | mk opened later =>
          rw [hopened] at hopening
          cases opened with
          | error message =>
              rw [transcript_whileOpen_of_shut hopen (congrArg Prod.fst hopened),
                transcript_whileOpen_of_shut hopen' (congrArg Prod.fst hopening)]
              exact ⟨rfl, rfl⟩
          | ok u =>
              rw [transcript_whileOpen_of_opened hopen hopened,
                transcript_whileOpen_of_opened hopen' hopening, hstatements]
              exact ⟨rfl, rfl⟩

end Bracketed

/-! ### The operations -/

namespace Operation

/-- **Inserts bracket a closed connection on every way out, and nothing else opens or closes one.**
An operation that is no insert (`Operation.inserted`) sends statements only, and an insert of
nothing makes no call.  Any other insert is `Bracketed`: it leaves an open connection alone; a
closed one it opens before its statements and closes after them, whatever came of them, and if it
cannot be opened, its error is the result and nothing is sent.  Neither the calls nor the result
depend on what the connection answers to being closed. -/
theorem calls_bracketed {σ : Type} (mapper : Mapper) (operation : Operation)
    (cache : Cache) (answer : (c : Call) → σ → c.Answer × σ) (s : σ) :
    let seen := ((operation.action mapper).dialogue cache).transcript answer s
    (match operation.inserted with
      | none => ∀ call ∈ seen.1, call.isStatement = true
      | some 0 => seen.1 = []
      | some (_ + 1) => Bracketed answer s seen.1 seen.2.1.1) ∧
    ∀ other : (c : Call) → σ → c.Answer × σ, (∀ c s, c ≠ .close → other c s = answer c s) →
      (((operation.action mapper).dialogue cache).transcript other s).1 = seen.1 ∧
      (((operation.action mapper).dialogue cache).transcript other s).2.1 = seen.2.1 := by
  dsimp only
  cases hinserted : operation.inserted with
  | none =>
      have hsent := (operation.checksFirst mapper hinserted cache).mono fun _ _ _ h => h.1
      refine ⟨hsent.transcript answer s, fun other hsame => ?_⟩
      have hrun := Dialogue.Always.transcript_congr hsent
        (fun c s hc => hsame c s (by rintro rfl; cases hc)) s
      rw [hrun]
      exact ⟨rfl, rfl⟩
  | some n =>
      cases n with
      | zero =>
          obtain ⟨ending, hdialogue, -⟩ := exists_dialogue_done mapper hinserted cache
          rw [hdialogue]
          exact ⟨rfl, fun other _ => ⟨rfl, rfl⟩⟩
      | succ n =>
          obtain ⟨body, cache', hdialogue, hbody, -⟩ := exists_whileOpen mapper hinserted cache
          have hsent := (hbody cache').mono fun _ _ _ h => h.1
          rw [hdialogue]
          exact ⟨bracketed_whileOpen hsent s,
            fun other hsame => transcript_whileOpen_congr hsent hsame s⟩

end Operation

namespace Sample

/-- A closed connection on which the next statement and the next closing fail. -/
def failing : Recording :=
  { Recording.start "FbConnection" false with
    failures := [(.exec, "disk full"), (.close, "broken pipe")] }

/-- The same connection, if closing always succeeded. -/
def closing : (c : Call) → Recording → c.Answer × Recording
  | .close, recording => (.ok (), { recording with isOpen := false })
  | c, recording => Recording.answer c recording

end Sample

/-- Two notes are inserted over a closed connection, and the statement fails. -/
theorem Operation.calls_bracketed_notes :
    let run := ((insertMany "FbConnection" Sample.note
      [Sample.noteOf 1 "a", Sample.noteOf 2 "b"]).action .standard).dialogue .empty
    Bracketed Recording.answer Sample.failing (run.transcript Recording.answer Sample.failing).1
        (run.transcript Recording.answer Sample.failing).2.1.1 ∧
      (run.transcript Sample.closing Sample.failing).2.1 =
        (run.transcript Recording.answer Sample.failing).2.1 := by
  have h := calls_bracketed .standard (insertMany "FbConnection" Sample.note
    [Sample.noteOf 1 "a", Sample.noteOf 2 "b"]) .empty Recording.answer Sample.failing
  refine ⟨h.1, (h.2 Sample.closing fun c recording hc => ?_).2⟩
  cases c with
  | close => exact absurd rfl hc
  | _ => rfl

end RowMapper
