import RowMapper.Proofs.Sql.Lexeme
import RowMapper.Proofs.Sql.Values

/-!
# What a written condition scans to

The text of a condition falls into the lexemes that its tree has, parentheses included, and
its placeholders get the places that are due.

* `Condition.Readable` — the conditions that a dialect can be trusted with: names that
  scan, lists that are not empty, and of free text only the two constants;
* `Condition.arity` — how many placeholders a condition has;
* `Condition.lexemes` — the lexemes of a condition, by recursion on the tree;
* `Scans`, `scans_of_readable` — they are what the text scans to.

### What is load-bearing

The lemmas about texts speak of a text with more behind it, so that they can be chained.
What is behind has to be `Apart`, and the number of the first placeholder is an argument:
the right operand of a join goes on where the left one stops.
-/

namespace RowMapper.Sql

/-- A name of a column that a dialect reads back as it was written. -/
def ReadableName (dialect : Dialect) (ident : Ident) : Prop :=
  ∃ s, ident = dialect.column s ∧ (dialect = .firebird → Plain s)

@[simp] theorem name_column (dialect : Dialect) (s : String) : (dialect.column s).name = s := by
  cases dialect <;> rfl

namespace Condition

/-- The conditions whose written text can be read. -/
def Readable (dialect : Dialect) : Condition → Prop
  | compare column _ _ => ReadableName dialect column
  | isNull column => ReadableName dialect column
  | isNotNull column => ReadableName dialect column
  | oneOf column values => ReadableName dialect column ∧ values ≠ []
  | noneOf column values => ReadableName dialect column ∧ values ≠ []
  | like column _ escape => ReadableName dialect column ∧ ∀ c ∈ escape, escapeByte c = c
  | raw sql => sql = "1 = 1" ∨ sql = "1 = 0"
  | join _ left right => left.Readable dialect ∧ right.Readable dialect

/-- How many placeholders a condition has. -/
def arity (condition : Condition) : Nat := (values condition.tokens).length

/-- The places of the placeholders of a list, up to the closing parenthesis. -/
def placeLexemes : List Nat → List Lexeme
  | [] => [.closing]
  | [place] => [.placeholder place, .closing]
  | place :: next :: rest => .placeholder place :: .comma :: placeLexemes (next :: rest)

/-- Lexemes between parentheses, if they are needed. -/
def encloseLexemes (needed : Bool) (lexemes : List Lexeme) : List Lexeme :=
  if needed then .opening :: lexemes ++ [.closing] else lexemes

/-- The keyword of a connective. -/
def connectiveKeyword : Connective → Keyword
  | .and => .and
  | .or => .or

/-- What the written condition scans to. -/
def lexemes (place : Nat) : Condition → List Lexeme
  | compare column comparison _ =>
    [.name column.name, .compare comparison, .placeholder place]
  | isNull column => [.name column.name, .keyword .is, .keyword .null]
  | isNotNull column => [.name column.name, .keyword .is, .keyword .not, .keyword .null]
  | oneOf column values =>
    .name column.name :: .keyword .member :: .opening ::
      placeLexemes (List.range' place values.length)
  | noneOf column values =>
    .name column.name :: .keyword .not :: .keyword .member :: .opening ::
      placeLexemes (List.range' place values.length)
  | like column _ escape =>
    .name column.name :: .keyword .like :: .placeholder place ::
      match escape with
      | none => []
      | some c => [.keyword .escape, .literal [c]]
  | raw sql => [.numeral 1, .compare .eq, .numeral (if sql = "1 = 1" then 1 else 0)]
  | join connective left right =>
    encloseLexemes (left.enclosedIn connective true) (left.lexemes place) ++
      .keyword (connectiveKeyword connective) ::
        encloseLexemes (right.enclosedIn connective false) (right.lexemes (place + left.arity))

end Condition

theorem arity_join (connective : Connective) (left right : Condition) :
    (Condition.join connective left right).arity = left.arity + right.arity := by
  simp [Condition.arity, values_join]

/-! ### What the text scans to -/

/-- Keywords with a blank in front of each. -/
def spacedKeywords (ks : List Keyword) : List Char := ks.flatMap fun k => ' ' :: k.spelling

section Scan

variable (dialect : Dialect) {place : Nat}

theorem scan_spacedKeywords (ks : List Keyword) {rest : List Char} (hrest : Apart rest) :
    dialect.style.scan place (spacedKeywords ks ++ rest) =
      (dialect.style.scan place rest).map (ks.map .keyword ++ ·) := by
  induction ks with
  | nil => simp [spacedKeywords]
  | cons k ks ih =>
      have hsplit : spacedKeywords (k :: ks) ++ rest =
          ' ' :: (k.spelling ++ (spacedKeywords ks ++ rest)) := by
        simp [spacedKeywords]
      have hapart : Apart (spacedKeywords ks ++ rest) := by
        cases ks with
        | nil => exact hrest
        | cons next ks => exact apart_blank _
      rw [hsplit, Style.scan_blank, scan_keyword dialect k hapart, ih, Option.map_map]
      rfl

/-- The name of a column, which a blank follows. -/
theorem scan_readableName {column : Ident} (hcolumn : ReadableName dialect column)
    (rest : List Char) :
    dialect.style.scan place (column.write dialect.style.marks ++ ' ' :: rest) =
      (dialect.style.scan place rest).map (.name column.name :: ·) := by
  obtain ⟨s, rfl, hplain⟩ := hcolumn
  rw [scan_column dialect hplain (apart_blank rest), Style.scan_blank, name_column]

/-- A list of values scans to its places. -/
theorem scan_list (vs : List Value) (place : Nat) (rest : List Char) :
    dialect.style.scan place
        (dialect.style.writeFrom place
          (separated ", " (vs.map fun v => [Token.param v]) ++ [.text ")"]) ++ rest) =
      (dialect.style.scan (place + vs.length) rest).map
        (Condition.placeLexemes (List.range' place vs.length) ++ ·) := by
  induction vs generalizing place with
  | nil => exact scan_closing dialect rest
  | cons v vs ih =>
      cases vs with
      | nil =>
          have htext : dialect.style.writeFrom place
              (separated ", " ([v].map fun v => [Token.param v]) ++ [.text ")"]) ++ rest =
                dialect.style.mark place ++ (')' :: rest) := by
            simp [separated, Style.writeFrom]
          rw [htext, scan_mark dialect (apart_closing rest), scan_closing, Option.map_map]
          rfl
      | cons w vs =>
          have htext : dialect.style.writeFrom place
              (separated ", " ((v :: w :: vs).map fun v => [Token.param v]) ++ [.text ")"]) ++
                rest = dialect.style.mark place ++ (',' :: ' ' ::
                  (dialect.style.writeFrom (place + 1)
                    (separated ", " ((w :: vs).map fun v => [Token.param v]) ++ [.text ")"]) ++
                      rest)) := by
            simp [separated, Style.writeFrom]
          rw [htext, scan_mark dialect (apart_comma _), scan_comma, Style.scan_blank, ih,
            Option.map_map, Option.map_map]
          have hnext : place + 1 + (w :: vs).length = place + (v :: w :: vs).length := by
            simp [Nat.add_assoc, Nat.add_comm 1]
          rw [hnext]
          rfl

/-- The lexemes of a comparison. -/
theorem scan_compare {column : Ident} (hcolumn : ReadableName dialect column)
    (comparison : Comparison) (value : Value) {rest : List Char} (hrest : Apart rest) :
    dialect.style.scan place
        (dialect.style.writeFrom place (Condition.compare column comparison value).tokens ++ rest) =
      (dialect.style.scan (place + 1) rest).map
        ((Condition.compare column comparison value).lexemes place ++ ·) := by
  have htext : dialect.style.writeFrom place (Condition.compare column comparison value).tokens ++
      rest = column.write dialect.style.marks ++ ' ' :: (comparison.sign.toList ++
        (' ' :: (dialect.style.mark place ++ rest))) := by
    simp [Condition.tokens, Style.writeFrom]
  rw [htext, scan_readableName dialect hcolumn, scan_sign dialect comparison (apart_blank _),
    Style.scan_blank, scan_mark dialect hrest, Option.map_map, Option.map_map]
  rfl

/-- The lexemes of a match with a pattern. -/
theorem scan_like {column : Ident} (hcolumn : ReadableName dialect column) (pattern : String)
    {escape : Option Char} (hescape : ∀ c ∈ escape, Condition.escapeByte c = c)
    {rest : List Char} (hrest : Apart rest) :
    dialect.style.scan place
        (dialect.style.writeFrom place (Condition.like column pattern escape).tokens ++ rest) =
      (dialect.style.scan (place + 1) rest).map
        ((Condition.like column pattern escape).lexemes place ++ ·) := by
  have hhead (more : List Char) (hmore : Apart more) :
      dialect.style.scan place
          (column.write dialect.style.marks ++ ' ' :: (Keyword.like.spelling ++ (' ' ::
            (dialect.style.mark place ++ more)))) =
        (dialect.style.scan (place + 1) more).map fun lexemes =>
          .name column.name :: .keyword .like :: .placeholder place :: lexemes := by
    rw [scan_readableName dialect hcolumn, scan_keyword dialect .like (apart_blank _),
      Style.scan_blank, scan_mark dialect hmore, Option.map_map, Option.map_map]
    rfl
  cases escape with
  | none =>
      have htext : dialect.style.writeFrom place (Condition.like column pattern none).tokens ++
          rest = column.write dialect.style.marks ++ ' ' :: (Keyword.like.spelling ++ (' ' ::
            (dialect.style.mark place ++ rest))) := by
        simp [Condition.tokens, Style.writeFrom, Keyword.spelling]
      rw [htext, hhead rest hrest]
      rfl
  | some c =>
      have htail : dialect.style.scan (place + 1)
          (' ' :: (Keyword.escape.spelling ++ (' ' :: (writeLiteral [c] ++ rest)))) =
            (dialect.style.scan (place + 1) rest).map
              ([.keyword .escape, .literal [c]] ++ ·) := by
        rw [Style.scan_blank, scan_keyword dialect .escape (apart_blank _), Style.scan_blank,
          scan_literal dialect [c] hrest, Option.map_map]
        rfl
      have htext : dialect.style.writeFrom place (Condition.like column pattern (some c)).tokens ++
          rest = column.write dialect.style.marks ++ ' ' :: (Keyword.like.spelling ++ (' ' ::
            (dialect.style.mark place ++ (' ' :: (Keyword.escape.spelling ++ (' ' ::
              (writeLiteral [c] ++ rest))))))) := by
        simp [Condition.tokens, Style.writeFrom, Keyword.spelling, hescape c rfl,
          String.toList_singleton]
      rw [htext, hhead _ (apart_blank _), htail, Option.map_map]
      rfl

/-- The name of a column and keywords after it. -/
theorem scan_column_keywords {column : Ident} (hcolumn : ReadableName dialect column)
    (ks : List Keyword) (hks : ks ≠ []) {rest : List Char} (hrest : Apart rest) :
    dialect.style.scan place (column.write dialect.style.marks ++ (spacedKeywords ks ++ rest)) =
      (dialect.style.scan place rest).map (.name column.name :: ks.map .keyword ++ ·) := by
  obtain ⟨s, rfl, hplain⟩ := hcolumn
  have hapart : Apart (spacedKeywords ks ++ rest) := by
    cases ks with
    | nil => exact absurd rfl hks
    | cons k ks => exact apart_blank _
  rw [scan_column dialect hplain hapart, scan_spacedKeywords dialect ks hrest, Option.map_map,
    name_column]
  rfl

/-- The lexemes of membership: the name, keywords and the list. -/
theorem scan_member {column : Ident} (hcolumn : ReadableName dialect column) (ks : List Keyword)
    (hks : ks ≠ []) (vs : List Value) (rest : List Char) :
    dialect.style.scan place (column.write dialect.style.marks ++ (spacedKeywords ks ++
        ' ' :: (dialect.style.writeFrom place (Condition.listTokens vs) ++ rest))) =
      (dialect.style.scan (place + vs.length) rest).map
        (.name column.name :: ks.map .keyword ++
          .opening :: Condition.placeLexemes (List.range' place vs.length) ++ ·) := by
  have htext : dialect.style.writeFrom place (Condition.listTokens vs) ++ rest =
      '(' :: (dialect.style.writeFrom place
        (separated ", " (vs.map fun v => [Token.param v]) ++ [.text ")"]) ++ rest) := by
    simp [Condition.listTokens, Style.writeFrom]
  rw [scan_column_keywords dialect hcolumn ks hks (apart_blank _), Style.scan_blank, htext,
    scan_opening, scan_list, Option.map_map, Option.map_map]
  simp [Function.comp_def]

/-- The lexemes of a constant condition. -/
theorem scan_constant (n : Nat) {rest : List Char} (hrest : Apart rest) :
    dialect.style.scan place
        (Decimal.digits 1 ++ ' ' :: (Comparison.eq.sign.toList ++ ' ' ::
          (Decimal.digits n ++ rest))) =
      (dialect.style.scan place rest).map ([.numeral 1, .compare .eq, .numeral n] ++ ·) := by
  rw [scan_digits dialect 1 (apart_blank _), Style.scan_blank,
    scan_sign dialect .eq (apart_blank _), Style.scan_blank, scan_digits dialect n hrest,
    Option.map_map, Option.map_map]
  rfl

/-- A text that is enclosed where it has to be. -/
theorem scan_enclose (needed : Bool) {tokens : List Token} {next : Nat} {lexemes : List Lexeme}
    (hscan : ∀ rest, Apart rest → dialect.style.scan place
      (dialect.style.writeFrom place tokens ++ rest) =
        (dialect.style.scan next rest).map (lexemes ++ ·))
    {rest : List Char} (hrest : Apart rest) :
    dialect.style.scan place
        (dialect.style.writeFrom place (Condition.enclose needed tokens) ++ rest) =
      (dialect.style.scan next rest).map
        (Condition.encloseLexemes needed lexemes ++ ·) := by
  cases needed with
  | false => exact hscan rest hrest
  | true =>
      have htext : dialect.style.writeFrom place (Condition.enclose true tokens) ++ rest =
          '(' :: (dialect.style.writeFrom place tokens ++ ')' :: rest) := by
        simp [Condition.enclose, Style.writeFrom, writeFrom_append]
      rw [htext, scan_opening, hscan _ (apart_closing rest), scan_closing, Option.map_map,
        Option.map_map]
      simp [Function.comp_def, Condition.encloseLexemes]

/-- The text of a condition scans to its lexemes, whatever follows it apart. -/
def Scans (c : Condition) : Prop :=
  ∀ (place : Nat) (rest : List Char), Apart rest →
    dialect.style.scan place (dialect.style.writeFrom place c.tokens ++ rest) =
      (dialect.style.scan (place + c.arity) rest).map (c.lexemes place ++ ·)

/-- The lexemes of two conditions and what joins them: the second goes on with the places. -/
theorem Scans.join {left right : Condition} (hl : Scans dialect left) (hr : Scans dialect right)
    (connective : Connective) : Scans dialect (.join connective left right) := by
  intro place rest hrest
  have hword : ∃ k, connective.word.toList = ' ' :: (k.spelling ++ [' ']) ∧
      k = Condition.connectiveKeyword connective := by
    cases connective <;> exact ⟨_, rfl, rfl⟩
  obtain ⟨k, hk, rfl⟩ := hword
  have htext : dialect.style.writeFrom place (Condition.join connective left right).tokens ++
      rest = dialect.style.writeFrom place
          (Condition.enclose (left.enclosedIn connective true) left.tokens) ++
        ' ' :: ((Condition.connectiveKeyword connective).spelling ++ ' ' ::
          (dialect.style.writeFrom (place + left.arity)
            (Condition.enclose (right.enclosedIn connective false) right.tokens) ++
              rest)) := by
    simp [Condition.tokens, Style.writeFrom, writeFrom_append, hk, Condition.arity]
  -- the blanks of the connective keep the operands apart
  have hright := scan_enclose dialect (right.enclosedIn connective false)
    (hr (place + left.arity)) hrest
  rw [htext, scan_enclose dialect _ (hl place) (apart_blank _),
    Style.scan_blank, scan_keyword dialect _ (apart_blank _), Style.scan_blank, hright,
    Option.map_map, Option.map_map, arity_join, Nat.add_assoc]
  simp [Function.comp_def, Condition.lexemes]

/-- **A readable condition scans to its lexemes.** -/
theorem scans_of_readable {c : Condition} (hc : c.Readable dialect) : Scans dialect c := by
  induction c with
  | compare column comparison value =>
      intro place rest hrest
      exact scan_compare dialect hc comparison value hrest
  | isNull column =>
      intro place rest hrest
      have htext : dialect.style.writeFrom place (Condition.isNull column).tokens ++ rest =
          column.write dialect.style.marks ++ (spacedKeywords [.is, .null] ++ rest) := by
        simp [Condition.tokens, Style.writeFrom, spacedKeywords, Keyword.spelling]
      rw [htext, scan_column_keywords dialect hc _ (by simp) hrest]
      rfl
  | isNotNull column =>
      intro place rest hrest
      have htext : dialect.style.writeFrom place (Condition.isNotNull column).tokens ++ rest =
          column.write dialect.style.marks ++ (spacedKeywords [.is, .not, .null] ++ rest) := by
        simp [Condition.tokens, Style.writeFrom, spacedKeywords, Keyword.spelling]
      rw [htext, scan_column_keywords dialect hc _ (by simp) hrest]
      rfl
  | oneOf column vs =>
      obtain ⟨hcolumn, hvs⟩ := hc
      intro place rest hrest
      have htext : dialect.style.writeFrom place (Condition.oneOf column vs).tokens ++ rest =
          column.write dialect.style.marks ++ (spacedKeywords [.member] ++
            ' ' :: (dialect.style.writeFrom place (Condition.listTokens vs) ++ rest)) := by
        obtain ⟨v, vs, rfl⟩ := List.exists_cons_of_ne_nil hvs
        simp [Condition.tokens, Style.writeFrom, spacedKeywords, Keyword.spelling]
      rw [htext, scan_member dialect hcolumn _ (by simp), Condition.arity, values_oneOf column hvs]
      rfl
  | noneOf column vs =>
      obtain ⟨hcolumn, hvs⟩ := hc
      intro place rest hrest
      have htext : dialect.style.writeFrom place (Condition.noneOf column vs).tokens ++ rest =
          column.write dialect.style.marks ++ (spacedKeywords [.not, .member] ++
            ' ' :: (dialect.style.writeFrom place (Condition.listTokens vs) ++ rest)) := by
        obtain ⟨v, vs, rfl⟩ := List.exists_cons_of_ne_nil hvs
        simp [Condition.tokens, Style.writeFrom, spacedKeywords, Keyword.spelling]
      rw [htext, scan_member dialect hcolumn _ (by simp), Condition.arity, values_noneOf column hvs]
      rfl
  | like column pattern escape =>
      intro place rest hrest
      rw [Condition.arity, values_like]
      exact scan_like dialect hc.1 pattern hc.2 hrest
  | raw sql =>
      intro place rest hrest
      rcases hc with rfl | rfl
      · exact scan_constant dialect 1 hrest
      · exact scan_constant dialect 0 hrest
  | join connective left right ihl ihr =>
      exact (ihl hc.1).join dialect (ihr hc.2) connective

end Scan

end RowMapper.Sql
