import RowMapper.Dialogue

/-!
# Dialogues that are the same

Two dialogues may send the same calls and differ only in what they have in hand at the end.

* `Dialogue.Rel` — the same calls, whatever is answered, and related results;
* `Dialogue.Rel.bind` — what goes on from related results in related ways is related;
* `Dialogue.transcript` — the calls that are sent on a connection, with the result;
* `Dialogue.Rel.transcript` — related dialogues send the same calls on any connection;
* `Dialogue.Always` — what holds of calls and result whatever is answered, with its rules
  `always_bind` and `Always.mono`;
* `Dialogue.Always.transcript`, `Always.transcript_congr` — it holds on any connection, and only
  the answers to the calls that are sent make a difference.
-/

namespace RowMapper.Dialogue

variable {α β γ δ σ : Type}

theorem bind_done_right (x : Dialogue α) : x.bind done = x := by
  induction x with
  | done result => rfl
  | ask c next ih => exact congrArg (ask c) (funext ih)

theorem bind_assoc (x : Dialogue α) (f : α → Dialogue β) (g : β → Dialogue γ) :
    (x.bind f).bind g = x.bind fun a => (f a).bind g := by
  induction x with
  | done result => rfl
  | ask c next ih => exact congrArg (ask c) (funext ih)

instance : LawfulMonad Dialogue :=
  LawfulMonad.mk' Dialogue bind_done_right (fun _ _ => rfl) bind_assoc

/-- Two dialogues send the same calls and end with related results. -/
inductive Rel (R : α → β → Prop) : Dialogue α → Dialogue β → Prop where
  | done {a : α} {b : β} (h : R a b) : Rel R (.done a) (.done b)
  | ask {c : Call} {x : c.Answer → Dialogue α} {y : c.Answer → Dialogue β}
      (h : ∀ answer, Rel R (x answer) (y answer)) : Rel R (.ask c x) (.ask c y)

namespace Rel

variable {R : α → β → Prop} {S : γ → δ → Prop}

theorem mono {S : α → β → Prop} {x : Dialogue α} {y : Dialogue β} (h : Rel R x y)
    (hRS : ∀ a b, R a b → S a b) : Rel S x y := by
  induction h with
  | done h => exact .done (hRS _ _ h)
  | ask h ih => exact .ask ih

/-- Related dialogues go on in related ways. -/
theorem bind {x : Dialogue α} {y : Dialogue β} {f : α → Dialogue γ} {g : β → Dialogue δ}
    (hxy : Rel R x y) (hfg : ∀ a b, R a b → Rel S (f a) (g b)) : Rel S (x.bind f) (y.bind g) := by
  induction hxy with
  | done h => exact hfg _ _ h
  | ask h ih => exact .ask fun answer => ih answer

end Rel

/-- The calls of a dialogue on a connection, in their order, and how it ends. -/
def transcript (answer : (c : Call) → σ → c.Answer × σ) : Dialogue α → σ → List Call × α × σ
  | done result, s => ([], result, s)
  | ask c next, s =>
    let (a, s) := answer c s
    let (calls, ending) := transcript answer (next a) s
    (c :: calls, ending)

theorem transcript_ask (answer : (c : Call) → σ → c.Answer × σ) (c : Call)
    (next : c.Answer → Dialogue α) (s : σ) :
    (ask c next).transcript answer s =
      (c :: ((next (answer c s).1).transcript answer (answer c s).2).1,
        ((next (answer c s).1).transcript answer (answer c s).2).2) := rfl

/-- The transcript ends as the dialogue does. -/
theorem transcript_snd (answer : (c : Call) → σ → c.Answer × σ) (x : Dialogue α) (s : σ) :
    (x.transcript answer s).2 = x.run answer s := by
  induction x generalizing s with
  | done result => rfl
  | ask c next ih => exact ih _ _

/-- What goes on runs on the connection as it was left. -/
theorem run_bind (answer : (c : Call) → σ → c.Answer × σ) (x : Dialogue α) (f : α → Dialogue β)
    (s : σ) : (x.bind f).run answer s =
      (f (x.run answer s).1).run answer (x.run answer s).2 := by
  induction x generalizing s with
  | done result => rfl
  | ask c next ih => exact ih _ _

/-- What goes on sends its calls after those that were sent, on the connection as these left it. -/
theorem transcript_bind (answer : (c : Call) → σ → c.Answer × σ) (x : Dialogue α)
    (f : α → Dialogue β) (s : σ) :
    (x.bind f).transcript answer s =
      ((x.transcript answer s).1 ++
          ((f (x.transcript answer s).2.1).transcript answer (x.transcript answer s).2.2).1,
        ((f (x.transcript answer s).2.1).transcript answer (x.transcript answer s).2.2).2) := by
  induction x generalizing s with
  | done result => rfl
  | ask c next ih =>
      rw [bind_ask, transcript_ask, transcript_ask, ih]
      rfl

/-- Related dialogues send the same calls on every connection and end in related ways. -/
theorem Rel.transcript {R : α → β → Prop} {x : Dialogue α} {y : Dialogue β} (h : Rel R x y)
    (answer : (c : Call) → σ → c.Answer × σ) (s : σ) :
    (x.transcript answer s).1 = (y.transcript answer s).1 ∧
      R (x.transcript answer s).2.1 (y.transcript answer s).2.1 ∧
      (x.transcript answer s).2.2 = (y.transcript answer s).2.2 := by
  induction h generalizing s with
  | done h => exact ⟨rfl, h, rfl⟩
  | @ask c x y h ih =>
      obtain ⟨hcalls, hresult, hstate⟩ := ih (answer c s).1 (answer c s).2
      exact ⟨congrArg (c :: ·) hcalls, hresult, hstate⟩

/-! ### Whatever is answered -/

/-- The calls that are sent and the result have a property, whatever is answered. -/
def Always : Dialogue α → (List Call → α → Prop) → Prop
  | done result, P => P [] result
  | ask c next, P => ∀ answer, (next answer).Always fun sent result => P (c :: sent) result

namespace Always

variable {P Q : List Call → α → Prop}

/-- What holds of all calls and results always holds. -/
theorem of_forall (x : Dialogue α) (h : ∀ sent result, P sent result) : x.Always P := by
  induction x generalizing P with
  | done result => exact h [] result
  | ask c next ih =>
      intro answer
      exact ih answer fun sent result => h (c :: sent) result

theorem mono {x : Dialogue α} (h : x.Always P)
    (hPQ : ∀ sent result, P sent result → Q sent result) : x.Always Q := by
  induction x generalizing P Q with
  | done result => exact hPQ [] result h
  | ask c next ih =>
      intro answer
      exact ih answer (h answer) fun sent result => hPQ (c :: sent) result

/-- What always holds is seen on every connection. -/
theorem transcript {x : Dialogue α} (h : x.Always P)
    (answer : (c : Call) → σ → c.Answer × σ) (s : σ) :
    P (x.transcript answer s).1 (x.transcript answer s).2.1 := by
  induction x generalizing P s with
  | done result => exact h
  | ask c next ih => exact ih (answer c s).1 (h (answer c s).1) (answer c s).2

/-- Connections that agree on the calls that are sent see the same run. -/
theorem transcript_congr {p : Call → Prop} {x : Dialogue α}
    (h : x.Always fun sent _ => ∀ c ∈ sent, p c)
    {answer other : (c : Call) → σ → c.Answer × σ}
    (hsame : ∀ c s, p c → other c s = answer c s) (s : σ) :
    x.transcript other s = x.transcript answer s := by
  induction x generalizing s with
  | done result => rfl
  | ask c next ih =>
      -- a call is sent on every way through the dialogue, so there is one to read it off
      have hcall : other c s = answer c s := by
        refine hsame c s ?_
        have hsent := (h (answer c s).1).transcript answer (answer c s).2
        exact hsent c List.mem_cons_self
      have hrest := ih (answer c s).1 ((h (answer c s).1).mono fun sent _ hsent c hc =>
        hsent c (List.mem_cons_of_mem _ hc)) (answer c s).2
      rw [transcript_ask, transcript_ask, hcall, hrest]

end Always

/-- What goes on sends its calls after those that were sent. -/
theorem always_bind {x : Dialogue α} {f : α → Dialogue β} {P : List Call → β → Prop}
    (h : x.Always fun sent a => (f a).Always fun later b => P (sent ++ later) b) :
    (x.bind f).Always P := by
  induction x generalizing P with
  | done result => exact h
  | ask c next ih =>
      intro answer
      exact ih answer (h answer)

/-- What is made of the result sends nothing. -/
theorem always_bind_done {x : Dialogue α} {f : α → β} {P : List Call → β → Prop} :
    (x.bind fun a => done (f a)).Always P ↔ x.Always fun sent a => P sent (f a) := by
  induction x generalizing P with
  | done result => exact Iff.rfl
  | ask c next ih => exact forall_congr' fun answer => ih answer

end RowMapper.Dialogue
