import RowMapper.Proofs.Sql.Phrase
import RowMapper.Proofs.Sql.Written

/-!
# What a written condition means

`Condition.truth` says when a condition is true of a row.  Its written text, read as a
database reads it, says the same: parentheses stand wherever the tree needs them, and the
placeholders take their data in the order of the text.

* `Condition.truth` — the meaning of a condition, by recursion on the tree;
* `Condition.phrase` — what the written condition is read as;
* `ofLexemes?_lexemes`, `truth_phrase` — the lexemes of a condition are read as its phrase,
  and the phrase says the same as the condition;
* `readFrom?_tokens`, `read?_tokens` — both together, from the text.

### Where the parentheses matter

Only one operand ever stands without parentheses next to a connective and is itself a
join: a left operand with the same connective.  So inside one pair of parentheses only one
connective occurs, the frame of the reader never holds alternatives and a conjunction at
the same time, and the tree that is read is the tree that was written, not merely an
equivalent one.
-/

namespace RowMapper.Sql

/-- The datum that is bound for a value; a value that cannot be bound counts as NULL. -/
def boundDatum (value : Value) : Datum :=
  match value.toDatum with
  | .ok d => d
  | .error _ => .str none

theorem boundDatum_of_ok {value : Value} {d : Datum} (h : value.toDatum = .ok d) :
    boundDatum value = d := by
  rw [boundDatum, h]

namespace Condition

/-- What a condition says about a row. -/
def truth (interpretation : Interpretation) (cells : String → Datum) : Condition → Truth
  | compare column comparison value =>
    interpretation.holds comparison (cells column.name) (boundDatum value)
  | isNull column => nullTruth (cells column.name)
  | isNotNull column => (nullTruth (cells column.name)).not
  | oneOf column values =>
    .anyOf (values.map fun value =>
      interpretation.holds .eq (cells column.name) (boundDatum value))
  | noneOf column values =>
    (Truth.anyOf (values.map fun value =>
      interpretation.holds .eq (cells column.name) (boundDatum value))).not
  | like column pattern escape =>
    interpretation.like (cells column.name) (.str (some pattern)) escape
  | raw sql => .ofBool (sql = "1 = 1")
  | join .and left right =>
    (left.truth interpretation cells).and (right.truth interpretation cells)
  | join .or left right =>
    (left.truth interpretation cells).or (right.truth interpretation cells)

/-- What the written condition is read as. -/
def phrase (place : Nat) : Condition → Phrase
  | compare column comparison _ => .compare column.name comparison place
  | isNull column => .isNull column.name
  | isNotNull column => .isNotNull column.name
  | oneOf column values => .oneOf column.name (List.range' place values.length)
  | noneOf column values => .noneOf column.name (List.range' place values.length)
  | like column _ escape => .like column.name place escape
  | raw sql => .constant 1 .eq (if sql = "1 = 1" then 1 else 0)
  | join .and left right => .and (left.phrase place) (right.phrase (place + left.arity))
  | join .or left right => .or (left.phrase place) (right.phrase (place + left.arity))

end Condition

/-! ### What the lexemes are read as -/

namespace Condition

/-- What has been read of a condition since the parenthesis in front of it. -/
def frame (place : Nat) : Condition → Frame
  | join .or left right =>
    ⟨some (left.phrase place), some (right.phrase (place + left.arity))⟩
  | c => ⟨none, some (c.phrase place)⟩

@[simp] theorem phrase?_frame (place : Nat) (c : Condition) :
    (c.frame place).phrase? = some (c.phrase place) := by
  unfold frame
  split <;> rfl

/-- A condition that is not joined from others. -/
def IsSimple : Condition → Prop
  | join _ _ _ => False
  | _ => True

end Condition

/-- Whatever goes on after a match does not make another match of it. -/
def Ends (rest : List Lexeme) : Prop := rest.head? ≠ some (.keyword .escape)

/-- A list of placeholders is read up to its end. -/
theorem expectPlace_placeLexemes (outer : List Frame) (frame : Frame) (negated : Bool)
    (column : String) {places : List Nat} (hplaces : places ≠ []) (before : List Nat)
    (rest : List Lexeme) :
    expectPlace outer frame negated column before (Condition.placeLexemes places ++ rest) =
      expectConnective outer (frame.add (memberPhrase negated column (before ++ places))) rest := by
  induction places generalizing before with
  | nil => exact absurd rfl hplaces
  | cons place places ih =>
      cases places with
      | nil => rfl
      | cons next places =>
          have hnext := ih (by simp) (before ++ [place])
          rw [List.append_assoc] at hnext
          exact hnext

/-- A condition that is not joined is read as one phrase more. -/
theorem expectCondition_simple {dialect : Dialect} {c : Condition} (hc : c.Readable dialect)
    (hsimple : c.IsSimple) (outer : List Frame) (frame : Frame) (place : Nat)
    {rest : List Lexeme} (hrest : Ends rest) :
    expectCondition outer frame (c.lexemes place ++ rest) =
      expectConnective outer (frame.add (c.phrase place)) rest := by
  cases c with
  | compare column comparison value => rfl
  | isNull column => rfl
  | isNotNull column => rfl
  | oneOf column vs =>
      have hplaces : List.range' place vs.length ≠ [] := by
        simpa using hc.2
      exact expectPlace_placeLexemes outer frame false column.name hplaces [] rest
  | noneOf column vs =>
      have hplaces : List.range' place vs.length ≠ [] := by
        simpa using hc.2
      exact expectPlace_placeLexemes outer frame true column.name hplaces [] rest
  | like column pattern escape =>
      cases escape with
      | some c => rfl
      | none =>
          show expectCondition outer frame
            (.name column.name :: .keyword .like :: .placeholder place :: rest) = _
          rw [expectCondition]
          · rfl
          · rintro e more rfl
            exact hrest rfl
  | raw sql => rfl
  | join connective left right => exact hsimple.elim

theorem ends_connective (connective : Connective) (rest : List Lexeme) :
    Ends (.keyword (Condition.connectiveKeyword connective) :: rest) := by
  cases connective <;> exact fun h => by cases h

theorem ends_closing (rest : List Lexeme) : Ends (.closing :: rest) := by
  intro h
  cases h

/-- Between parentheses a condition is one phrase more for what is around it. -/
theorem expectCondition_enclosed {c : Condition} {place : Nat} (outer : List Frame)
    (frame : Frame) {rest : List Lexeme}
    (hread : expectCondition (frame :: outer) .start (c.lexemes place ++ .closing :: rest) =
      expectConnective (frame :: outer) (c.frame place) (.closing :: rest)) :
    expectCondition outer frame (Condition.encloseLexemes true (c.lexemes place) ++ rest) =
      expectConnective outer (frame.add (c.phrase place)) rest := by
  have hclose : expectConnective (frame :: outer) (c.frame place) (.closing :: rest) =
      expectConnective outer (frame.add (c.phrase place)) rest := by
    simp [expectConnective]
  rw [← hclose, ← hread]
  simp [Condition.encloseLexemes, expectCondition]

/-- What stands without parentheses on the right is not joined. -/
theorem isSimple_of_not_enclosedIn {c : Condition} {connective : Connective}
    (h : c.enclosedIn connective false = false) : c.IsSimple := by
  cases c with
  | join inner left right => cases h
  | _ => trivial

/-- A join that stands without parentheses on the left has the same connective. -/
theorem frame_of_not_enclosedIn {c : Condition} {connective : Connective} (place : Nat)
    (h : c.enclosedIn connective true = false) (hand : connective = .and) :
    c.frame place = ⟨none, some (c.phrase place)⟩ := by
  subst hand
  cases c with
  | join inner left right =>
      cases inner with
      | and => rfl
      | or => cases h
  | _ => rfl

/-- A written condition is read as its phrase, as the first one since a parenthesis. -/
theorem expectCondition_lexemes {dialect : Dialect} {c : Condition} (hc : c.Readable dialect)
    (outer : List Frame) (place : Nat) {rest : List Lexeme} (hrest : Ends rest) :
    expectCondition outer .start (c.lexemes place ++ rest) =
      expectConnective outer (c.frame place) rest := by
  induction c generalizing outer place rest with
  | join connective left right ihl ihr =>
      obtain ⟨hl, hr⟩ := hc
      -- the right operand adds its phrase to any frame
      have hright (frame : Frame) : expectCondition outer frame
          (Condition.encloseLexemes (right.enclosedIn connective false)
            (right.lexemes (place + left.arity)) ++ rest) =
          expectConnective outer (frame.add (right.phrase (place + left.arity))) rest := by
        cases h : right.enclosedIn connective false with
        | true =>
            exact expectCondition_enclosed outer frame (ihr hr _ _ (ends_closing rest))
        | false =>
            exact expectCondition_simple hr (isSimple_of_not_enclosedIn h) outer frame _ hrest
      -- the left one leaves a frame in which there are no alternatives if `AND` follows
      have hleft (more : List Lexeme) (hmore : Ends more) :
          ∃ frame : Frame, expectCondition outer .start
            (Condition.encloseLexemes (left.enclosedIn connective true) (left.lexemes place) ++
              more) = expectConnective outer frame more ∧
            frame.phrase? = some (left.phrase place) ∧
            (connective = .and → frame = ⟨none, some (left.phrase place)⟩) := by
        cases h : left.enclosedIn connective true with
        | true =>
            exact ⟨_, expectCondition_enclosed outer .start (ihl hl _ _ (ends_closing more)),
              rfl, fun _ => rfl⟩
        | false =>
            exact ⟨_, ihl hl outer place hmore, Condition.phrase?_frame place left,
              frame_of_not_enclosedIn place h⟩
      obtain ⟨frame, hread, hphrase, hand⟩ := hleft _ (ends_connective connective
        (Condition.encloseLexemes (right.enclosedIn connective false)
          (right.lexemes (place + left.arity)) ++ rest))
      rw [Condition.lexemes, List.append_assoc, List.cons_append, hread]
      cases connective with
      | and =>
          obtain rfl := hand rfl
          rw [Condition.connectiveKeyword, expectConnective, hright]
          rfl
      | or =>
          rw [Condition.connectiveKeyword, expectConnective, hright, hphrase]
          rfl
  | _ => exact expectCondition_simple hc trivial outer .start place hrest

/-- A written condition is read as its phrase. -/
theorem ofLexemes?_lexemes {dialect : Dialect} {c : Condition} (hc : c.Readable dialect)
    (place : Nat) : Phrase.ofLexemes? (c.lexemes place) = some (c.phrase place) := by
  have hends : Ends [] := by
    intro h
    cases h
  have hread := expectCondition_lexemes hc [] place hends
  rw [List.append_nil] at hread
  rw [Phrase.ofLexemes?, hread, expectConnective, Condition.phrase?_frame]
  rfl

/-! ### What the phrase says -/

section Meaning

variable (interpretation : Interpretation) (cells : String → Datum)

/-- The datum that is due is at its place. -/
theorem ofParam_append (before : List Datum) (d : Datum) (after : List Datum)
    (truth : Datum → Truth) :
    ofParam (before ++ d :: after) (before.length + 1) truth = truth d := by
  simp [ofParam]

/-- The data of a list are at its places. -/
theorem map_ofParam_range' (before after : List Datum) (vs : List Value)
    (truth : Datum → Truth) :
    (List.range' (before.length + 1) vs.length).map
        (fun place => ofParam (before ++ vs.map boundDatum ++ after) place truth) =
      vs.map fun v => truth (boundDatum v) := by
  induction vs generalizing before with
  | nil => rfl
  | cons v vs ih =>
      -- what has been taken counts as what comes before
      have hrest := ih (before ++ [boundDatum v])
      have hdata : before ++ (v :: vs).map boundDatum ++ after =
          before ++ [boundDatum v] ++ vs.map boundDatum ++ after := by
        simp
      have hhead : ofParam (before ++ [boundDatum v] ++ vs.map boundDatum ++ after)
          (before.length + 1) truth = truth (boundDatum v) := by
        simpa using ofParam_append before (boundDatum v) (vs.map boundDatum ++ after) truth
      rw [List.length_append, List.length_singleton] at hrest
      rw [hdata, List.length_cons, List.range'_succ, List.map_cons, List.map_cons, hrest, hhead]

/-- What a written condition is read as is true of the same rows as the condition, given its
own data at its places. -/
theorem truth_phrase {dialect : Dialect} {c : Condition} (hc : c.Readable dialect)
    (before after : List Datum) :
    (c.phrase (before.length + 1)).truth interpretation
        (before ++ (values c.tokens).map boundDatum ++ after) cells =
      c.truth interpretation cells := by
  induction c generalizing before after with
  | compare column comparison value =>
      rw [Condition.phrase, Phrase.truth, Condition.truth]
      simpa [values, Condition.tokens] using
        ofParam_append before (boundDatum value) after
          (interpretation.holds comparison (cells column.name))
  | isNull column => rfl
  | isNotNull column => rfl
  | oneOf column vs =>
      rw [values_oneOf column hc.2, Condition.phrase, Phrase.truth, map_ofParam_range',
        Condition.truth]
  | noneOf column vs =>
      rw [values_noneOf column hc.2, Condition.phrase, Phrase.truth, map_ofParam_range',
        Condition.truth]
  | like column pattern escape =>
      have hdatum : boundDatum (.string (some pattern)) = .str (some pattern) := rfl
      rw [values_like, Condition.phrase, Phrase.truth, Condition.truth]
      simpa [hdatum] using ofParam_append before (.str (some pattern)) after
        fun d => interpretation.like (cells column.name) d escape
  | raw sql =>
      rcases hc with rfl | rfl <;> rfl
  | join connective left right ihl ihr =>
      obtain ⟨hl, hr⟩ := hc
      have hleft := ihl hl before ((values right.tokens).map boundDatum ++ after)
      have hright := ihr hr (before ++ (values left.tokens).map boundDatum) after
      -- to the right operand, the data of the left one come before its own
      have hplace : (before ++ (values left.tokens).map boundDatum).length + 1 =
          before.length + 1 + left.arity := by
        simp [Condition.arity]
        omega
      rw [hplace] at hright
      rw [values_join, List.map_append]
      simp only [List.append_assoc] at hleft hright ⊢
      cases connective with
      | and => rw [Condition.phrase, Phrase.truth, hleft, hright, Condition.truth]
      | or => rw [Condition.phrase, Phrase.truth, hleft, hright, Condition.truth]

end Meaning

/-- The text of a condition that stands behind other placeholders, read as a database reads it, is
true of the same rows as the condition. -/
theorem readFrom?_tokens {dialect : Dialect} {c : Condition} (hc : c.Readable dialect)
    (before : List Datum) :
    ∃ phrase, Phrase.readFrom? dialect.style (before.length + 1)
        (dialect.style.writeFrom (before.length + 1) c.tokens) = some phrase ∧
      ∀ (interpretation : Interpretation) (after : List Datum) (cells : String → Datum),
        phrase.truth interpretation (before ++ (values c.tokens).map boundDatum ++ after) cells =
          c.truth interpretation cells := by
  have hscan := scans_of_readable dialect hc (before.length + 1) [] apart_nil
  rw [List.append_nil, Style.scan_nil, Option.map_some, List.append_nil] at hscan
  refine ⟨c.phrase (before.length + 1), ?_, fun interpretation after cells =>
    truth_phrase interpretation cells hc before after⟩
  rw [Phrase.readFrom?, hscan]
  exact ofLexemes?_lexemes hc (before.length + 1)

/-- The text of a condition, read as a database reads it, is true of the same rows as the
condition. -/
theorem read?_tokens {dialect : Dialect} {c : Condition} (hc : c.Readable dialect) :
    ∃ phrase, Phrase.read? dialect.style (dialect.style.writeFrom 1 c.tokens) = some phrase ∧
      ∀ (interpretation : Interpretation) (after : List Datum) (cells : String → Datum),
        phrase.truth interpretation ((values c.tokens).map boundDatum ++ after) cells =
          c.truth interpretation cells :=
  readFrom?_tokens hc []

/-- Without parentheses the alternatives would be grouped another way. -/
example : Phrase.read? Dialect.postgres.style "(\"a\" = $1 OR \"b\" = $2) AND \"c\" <> $3".toList =
    some (.and (.or (.compare "a" .eq 1) (.compare "b" .eq 2)) (.compare "c" .ne 3)) := by
  cbv

end RowMapper.Sql
