import Mathlib.Logic.Function.Basic
import RowMapper.Proofs.Dialogue

/-!
# Dialogues side by side

Two clients that talk to one database take turns, in any order.

* `Client`, `Clients` — the clients, and their dialogues on a shared state;
* `Clients.turn`, `Clients.run` — one call of a client, and a schedule of such turns;
* `Dialogue.Ends` — a dialogue ends after some calls in a state of a kind, whatever another client
  does in between;
* `Dialogue.Ends.bind` — what goes on after such an end;
* `Clients.ends_turn`, `ends_turn_of_ne`, `ends_run` — under every schedule a client comes nearer to
  its end with each turn that it has.

### What a client relies on

A client cannot say what the other one does, but what it leaves alone.  `rely` relates the states
before and after anything that the other one may do, however often, so it is taken to be reflexive
and transitive.  Between two own calls a dialogue may find itself in any state that is related to
the last one.  What is proved in this way of a single dialogue holds beside any other whose calls
keep to the relation.
-/

namespace RowMapper

/-- One of two clients. -/
inductive Client where
  | first
  | second
  deriving DecidableEq, Repr

/-- The dialogues of two clients with the state that both talk to. -/
structure Clients (α σ : Type) where
  dialogue : Client → Dialogue α
  state : σ

namespace Clients

variable {α σ : Type} (answer : Client → (c : Call) → σ → c.Answer × σ)

/-- The next call of a client.  A client that is done has no more turns to take. -/
def turn (clients : Clients α σ) (who : Client) : Clients α σ :=
  match clients.dialogue who with
  | .done _ => clients
  | .ask c next =>
    let (a, s) := answer who c clients.state
    ⟨Function.update clients.dialogue who (next a), s⟩

/-- The turns of a schedule. -/
def run (clients : Clients α σ) (schedule : List Client) : Clients α σ :=
  schedule.foldl (turn answer) clients

theorem run_cons (clients : Clients α σ) (who : Client) (schedule : List Client) :
    clients.run answer (who :: schedule) = (clients.turn answer who).run answer schedule := rfl

variable {answer} {clients : Clients α σ} {who : Client}

theorem turn_of_done {a : α} (h : clients.dialogue who = .done a) :
    clients.turn answer who = clients := by
  rw [turn, h]

theorem turn_of_ask {c : Call} {next : c.Answer → Dialogue α}
    (h : clients.dialogue who = .ask c next) :
    clients.turn answer who =
      ⟨Function.update clients.dialogue who (next (answer who c clients.state).1),
        (answer who c clients.state).2⟩ := by
  rw [turn, h]

end Clients

namespace Dialogue

variable {α β σ : Type} {answer : (c : Call) → σ → c.Answer × σ} {rely : σ → σ → Prop}

/-- After at most so many calls the dialogue ends with a result and a state of a kind, if before
each of its calls the state changes in a way that it relies on. -/
def Ends (answer : (c : Call) → σ → c.Answer × σ) (rely : σ → σ → Prop) (Q : α → σ → Prop) :
    Nat → Dialogue α → σ → Prop
  | _, done a, s => Q a s
  | 0, ask _ _, _ => False
  | n + 1, ask c next, s => ∀ s', rely s s' →
    Ends answer rely Q n (next (answer c s').1) (answer c s').2

namespace Ends

variable {Q : α → σ → Prop} {R : β → σ → Prop} {n m : Nat}

@[simp] theorem done_iff {a : α} {s : σ} : Ends answer rely Q n (done a) s ↔ Q a s := by
  cases n <;> rfl

/-- Without further calls the dialogue is at its end. -/
theorem exists_done {x : Dialogue α} {s : σ} (h : Ends answer rely Q 0 x s) :
    ∃ a, x = done a ∧ Q a s := by
  cases x with
  | done a => exact ⟨a, rfl, done_iff.mp h⟩
  | ask c next => cases h

theorem mono {x : Dialogue α} {s : σ} (h : Ends answer rely Q n x s) (hnm : n ≤ m) :
    Ends answer rely Q m x s := by
  induction n generalizing x s m with
  | zero =>
      obtain ⟨a, rfl, hQ⟩ := exists_done h
      exact done_iff.mpr hQ
  | succ n ih =>
      cases x with
      | done a => simpa using h
      | ask c next =>
          obtain ⟨m, rfl⟩ : ∃ k, m = k + 1 := ⟨m - 1, by omega⟩
          exact fun s' hs' => ih (h s' hs') (Nat.le_of_succ_le_succ hnm)

/-- What goes on has its own calls after those that came first. -/
theorem bind {x : Dialogue α} {f : α → Dialogue β} {s : σ}
    (h : Ends answer rely (fun a s => Ends answer rely R m (f a) s) n x s) :
    Ends answer rely R (n + m) (x.bind f) s := by
  induction n generalizing x s with
  | zero =>
      obtain ⟨a, rfl, hend⟩ := exists_done h
      exact mono hend (Nat.le_add_left m 0)
  | succ n ih =>
      cases x with
      | done a => exact mono h (Nat.le_add_left m (n + 1))
      | ask c next =>
          rw [Nat.succ_add]
          exact fun s' hs' => ih (h s' hs')

theorem imp {R : α → σ → Prop} {x : Dialogue α} {s : σ} (h : Ends answer rely Q n x s)
    (hQR : ∀ a s, Q a s → R a s) : Ends answer rely R n x s := by
  induction n generalizing x s with
  | zero =>
      obtain ⟨a, rfl, hQ⟩ := exists_done h
      exact hQR a s hQ
  | succ n ih =>
      cases x with
      | done a => exact hQR a s h
      | ask c next => exact fun s' hs' => ih (h s' hs')

/-- A change that is relied on may come before the next call. -/
theorem of_rely {x : Dialogue α} {s s' : σ} (h : Ends answer rely Q n x s) (hs : rely s s')
    (htrans : ∀ ⦃s t u⦄, rely s t → rely t u → rely s u)
    (hstable : ∀ ⦃a s s'⦄, Q a s → rely s s' → Q a s') : Ends answer rely Q n x s' := by
  cases x with
  | done a =>
      rw [done_iff] at h ⊢
      exact hstable h hs
  | ask c next =>
      cases n with
      | zero => cases h
      | succ n => exact fun t ht => h t (htrans hs ht)

end Ends

end Dialogue

namespace Clients

variable {α σ : Type} {answer : Client → (c : Call) → σ → c.Answer × σ} {who : Client}
  {rely : σ → σ → Prop} {Q : α → σ → Prop} {clients : Clients α σ} {n : Nat}

/-- An own turn brings the end one call nearer. -/
theorem ends_turn (hrefl : ∀ s, rely s s)
    (h : Dialogue.Ends (answer who) rely Q n (clients.dialogue who) clients.state) :
    Dialogue.Ends (answer who) rely Q (n - 1) ((clients.turn answer who).dialogue who)
      (clients.turn answer who).state := by
  cases hdialogue : clients.dialogue who with
  | done a =>
      rw [turn_of_done hdialogue, hdialogue, Dialogue.Ends.done_iff]
      rwa [hdialogue, Dialogue.Ends.done_iff] at h
  | ask c next =>
      rw [hdialogue] at h
      rw [turn_of_ask hdialogue]
      cases n with
      | zero => cases h
      | succ n => simpa using h clients.state (hrefl _)

variable (htrans : ∀ ⦃s t u⦄, rely s t → rely t u → rely s u)
  (hstable : ∀ ⦃a s s'⦄, Q a s → rely s s' → Q a s')
  (hother : ∀ other, other ≠ who → ∀ c s, rely s (answer other c s).2)

include htrans hstable hother

/-- Another turn leaves the dialogue alone and changes the state as it may. -/
theorem ends_turn_of_ne {next : Client} (hne : next ≠ who)
    (h : Dialogue.Ends (answer who) rely Q n (clients.dialogue who) clients.state) :
    Dialogue.Ends (answer who) rely Q n ((clients.turn answer next).dialogue who)
      (clients.turn answer next).state := by
  cases hdialogue : clients.dialogue next with
  | done a => rwa [turn_of_done hdialogue]
  | ask c rest =>
      have hsame : (clients.turn answer next).dialogue who = clients.dialogue who := by
        rw [turn_of_ask hdialogue]
        exact Function.update_of_ne hne.symm _ _
      rw [hsame, turn_of_ask hdialogue]
      exact h.of_rely (hother next hne c clients.state) htrans hstable

/-- Under every schedule a client comes nearer to its end with each turn that it has, whatever the
other one does in between, if that keeps to what the client relies on. -/
theorem ends_run (hrefl : ∀ s, rely s s)
    (h : Dialogue.Ends (answer who) rely Q n (clients.dialogue who) clients.state)
    (schedule : List Client) :
    Dialogue.Ends (answer who) rely Q (n - schedule.count who)
      ((clients.run answer schedule).dialogue who) (clients.run answer schedule).state := by
  induction schedule generalizing clients n with
  | nil => exact h
  | cons next schedule ih =>
      rw [run_cons]
      by_cases hwho : next = who
      · subst hwho
        have hcount : n - (next :: schedule).count next = n - 1 - schedule.count next := by
          rw [List.count_cons_self]
          omega
        rw [hcount]
        exact ih (ends_turn hrefl h)
      · rw [List.count_cons_of_ne hwho]
        exact ih (ends_turn_of_ne htrans hstable hother hwho h)

end Clients

end RowMapper
