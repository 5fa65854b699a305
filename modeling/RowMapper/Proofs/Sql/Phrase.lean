import RowMapper.Proofs.Sql.Lexeme

/-!
# Conditions as a database reads them

The other end of a `WHERE` clause: a database takes its text apart into lexemes, groups
them by parentheses and by the rule that `AND` binds tighter than `OR`, and asks of every
row whether what it has read is true of it.

* `Truth` — the three truth values of SQL, joined by the tables of Kleene;
* `Interpretation` — how a database compares two values and matches a pattern; nothing
  here depends on more than that comparisons can be read from either side;
* `Phrase` — a condition as it is read, with placeholders by their place;
* `Phrase.ofLexemes?` — the reading: one pass over the lexemes, with a `Frame` for each
  parenthesis that is open;
* `Phrase.truth` — what a phrase says about a row, given the data of the placeholders.

Reading knows nothing of the writer.  It is the yardstick for it: the modules after this
one show that what is written for a condition reads as that condition.
-/

namespace RowMapper.Sql

/-! ### Truth values -/

/-- A truth value of SQL. -/
inductive Truth where
  | yes
  | no
  | unknown
  deriving DecidableEq, Repr

namespace Truth

/-- Both hold: one `no` decides, and only two `yes` make a `yes`. -/
def and : Truth → Truth → Truth
  | no, _ => no
  | _, no => no
  | yes, yes => yes
  | _, _ => unknown

/-- One of two holds: one `yes` decides, and only two `no` make a `no`. -/
def or : Truth → Truth → Truth
  | yes, _ => yes
  | _, yes => yes
  | no, no => no
  | _, _ => unknown

/-- The opposite; what is unknown stays unknown. -/
def not : Truth → Truth
  | yes => no
  | no => yes
  | unknown => unknown

/-- The truth value of a decided question. -/
def ofBool (b : Bool) : Truth := if b then yes else no

/-- One of several holds. -/
def anyOf (truths : List Truth) : Truth := truths.foldr or no

theorem and_eq_yes_iff {a b : Truth} : a.and b = yes ↔ a = yes ∧ b = yes := by
  cases a <;> cases b <;> decide

theorem or_eq_yes_iff {a b : Truth} : a.or b = yes ↔ a = yes ∨ b = yes := by
  cases a <;> cases b <;> decide

end Truth

/-- How a database compares and matches values.  The result may be unknown, as it is with
NULL. -/
structure Interpretation where
  /-- Whether a comparison holds between two values. -/
  holds : Comparison → Datum → Datum → Truth
  /-- A comparison says the same when it is turned round together with its operands. -/
  holds_flip : ∀ comparison a b, holds comparison.flip b a = holds comparison a b
  /-- Whether a value matches a pattern, where some character may escape others. -/
  like : Datum → Datum → Option Char → Truth

/-- A comparison with NULL is unknown, on whichever side NULL stands. -/
def Interpretation.NullUnknown (interpretation : Interpretation) : Prop :=
  ∀ comparison a b, a.isNull ∨ b.isNull → interpretation.holds comparison a b = .unknown

/-- Where a comparison holds, there is no NULL. -/
theorem Interpretation.NullUnknown.isNull_eq_false {interpretation : Interpretation}
    (h : interpretation.NullUnknown) {comparison : Comparison} {a b : Datum}
    (hyes : interpretation.holds comparison a b = .yes) : a.isNull = false ∧ b.isNull = false := by
  have hleft : ¬ a.isNull := fun hnull => by
    rw [h comparison a b (.inl hnull)] at hyes
    cases hyes
  have hright : ¬ b.isNull := fun hnull => by
    rw [h comparison a b (.inr hnull)] at hyes
    cases hyes
  exact ⟨Bool.eq_false_iff.mpr hleft, Bool.eq_false_iff.mpr hright⟩

/-! ### Phrases -/

/-- A condition as it is read. -/
inductive Phrase where
  | compare (column : String) (comparison : Comparison) (place : Nat)
  /-- A comparison of two numerals. -/
  | constant (left : Nat) (comparison : Comparison) (right : Nat)
  | isNull (column : String)
  | isNotNull (column : String)
  | oneOf (column : String) (places : List Nat)
  | noneOf (column : String) (places : List Nat)
  | like (column : String) (place : Nat) (escape : Option Char)
  | and (left right : Phrase)
  | or (left right : Phrase)
  deriving DecidableEq, Repr

/-- Whether a comparison holds between two numbers. -/
def comparesNumbers : Comparison → Int → Int → Bool
  | .eq, a, b => a = b
  | .ne, a, b => a ≠ b
  | .gt, a, b => b < a
  | .gte, a, b => b ≤ a
  | .lt, a, b => a < b
  | .lte, a, b => a ≤ b

/-- What is said of the datum of a placeholder; without a datum nothing is known. -/
def ofParam (params : List Datum) (place : Nat) (truth : Datum → Truth) : Truth :=
  match params[place - 1]? with
  | some d => truth d
  | none => .unknown

/-- Whether a datum is NULL. -/
def nullTruth (d : Datum) : Truth := .ofBool d.isNull

/-- What a phrase says about a row, given the data of the placeholders. -/
def Phrase.truth (interpretation : Interpretation) (params : List Datum)
    (cells : String → Datum) : Phrase → Truth
  | compare column comparison place =>
    ofParam params place (interpretation.holds comparison (cells column))
  | constant left comparison right => .ofBool (comparesNumbers comparison left right)
  | isNull column => nullTruth (cells column)
  | isNotNull column => (nullTruth (cells column)).not
  | oneOf column places =>
    .anyOf (places.map fun place => ofParam params place (interpretation.holds .eq (cells column)))
  | noneOf column places =>
    (Truth.anyOf (places.map fun place =>
      ofParam params place (interpretation.holds .eq (cells column)))).not
  | like column place escape =>
    ofParam params place fun pattern => interpretation.like (cells column) pattern escape
  | and left right =>
    (left.truth interpretation params cells).and (right.truth interpretation params cells)
  | or left right =>
    (left.truth interpretation params cells).or (right.truth interpretation params cells)

/-! ### Reading -/

/-- What has been read since a parenthesis was opened. -/
structure Frame where
  /-- The alternatives before the last `OR`. -/
  alternatives : Option Phrase
  /-- What is joined by `AND` since then. -/
  joined : Option Phrase

namespace Frame

/-- Nothing has been read yet. -/
def start : Frame := ⟨none, none⟩

/-- One more phrase, after `AND` or at the start. -/
def add (frame : Frame) (phrase : Phrase) : Frame :=
  { frame with
    joined := some (match frame.joined with
      | none => phrase
      | some before => .and before phrase) }

/-- All that has been read, as one phrase. -/
def phrase? (frame : Frame) : Option Phrase :=
  match frame.alternatives, frame.joined with
  | some before, some last => some (.or before last)
  | none, last => last
  | some _, none => none

end Frame

/-- The phrase of membership in a list of placeholders. -/
def memberPhrase (negated : Bool) (column : String) (places : List Nat) : Phrase :=
  if negated then .noneOf column places else .oneOf column places

mutual

/-- Reads on where a condition must stand. -/
def expectCondition (outer : List Frame) (frame : Frame) : List Lexeme → Option Phrase
  | .opening :: rest => expectCondition (frame :: outer) .start rest
  | .name c :: .compare op :: .placeholder place :: rest =>
    expectConnective outer (frame.add (.compare c op place)) rest
  | .numeral a :: .compare op :: .numeral b :: rest =>
    expectConnective outer (frame.add (.constant a op b)) rest
  | .name c :: .keyword .is :: .keyword .null :: rest =>
    expectConnective outer (frame.add (.isNull c)) rest
  | .name c :: .keyword .is :: .keyword .not :: .keyword .null :: rest =>
    expectConnective outer (frame.add (.isNotNull c)) rest
  | .name c :: .keyword .member :: .opening :: rest =>
    expectPlace outer frame false c [] rest
  | .name c :: .keyword .not :: .keyword .member :: .opening :: rest =>
    expectPlace outer frame true c [] rest
  | .name c :: .keyword .like :: .placeholder place :: .keyword .escape :: .literal [e] :: rest =>
    expectConnective outer (frame.add (.like c place (some e))) rest
  | .name c :: .keyword .like :: .placeholder place :: rest =>
    expectConnective outer (frame.add (.like c place none)) rest
  | _ => none

/-- Reads on where a connective, a closing parenthesis or the end must stand. -/
def expectConnective (outer : List Frame) (frame : Frame) : List Lexeme → Option Phrase
  | [] => if outer.isEmpty then frame.phrase? else none
  | .keyword .and :: rest => expectCondition outer frame rest
  | .keyword .or :: rest => expectCondition outer ⟨frame.phrase?, none⟩ rest
  | .closing :: rest =>
    match outer, frame.phrase? with
    | around :: outer, some phrase => expectConnective outer (around.add phrase) rest
    | _, _ => none
  | _ => none

/-- Reads on inside a list of placeholders. -/
def expectPlace (outer : List Frame) (frame : Frame) (negated : Bool) (column : String)
    (places : List Nat) : List Lexeme → Option Phrase
  | .placeholder place :: .comma :: rest =>
    expectPlace outer frame negated column (places ++ [place]) rest
  | .placeholder place :: .closing :: rest =>
    expectConnective outer (frame.add (memberPhrase negated column (places ++ [place]))) rest
  | _ => none

end

/-- The phrase that lexemes are. -/
def Phrase.ofLexemes? (lexemes : List Lexeme) : Option Phrase :=
  expectCondition [] .start lexemes

/-- The phrase that a text is, as a database that writes in a style reads it. -/
def Phrase.read? (style : Style) (text : List Char) : Option Phrase :=
  (style.scan 1 text).bind Phrase.ofLexemes?

/-- The phrase that a part of a statement is, where `place` is that of its first placeholder. -/
def Phrase.readFrom? (style : Style) (place : Nat) (text : List Char) : Option Phrase :=
  (style.scan place text).bind Phrase.ofLexemes?

end RowMapper.Sql
