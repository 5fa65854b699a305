import RowMapper.Dialect

/-!
# Lexemes of written SQL

A database sees the text of a statement and not the tokens it was written from.
This module says how such a text falls into lexemes, character by character, and
proves that the text of a token is read back as the lexeme it stands for.

* `Lexeme` — keywords, names, numerals, literals, comparisons, punctuation and
  placeholders, each placeholder with its place among all of them;
* `Style.scan` — the lexemes of a text: a quoted name or literal ends at the first
  closing mark that stands alone, a word at the first character that cannot belong to
  it, and a numbered placeholder must carry the number that is due;
* `scan_column`, `scan_literal`, `scan_mark`, `scan_word`, `scan_sign` — each written token is one
  lexeme, whatever follows it.

### What is load-bearing

A bare name is a word like any other, so it is read back as a name only if it is
`Plain`: it starts with a letter or an underscore, holds word characters only and is no
keyword.  A
quoted name needs no condition at all, because its closing mark is doubled inside.

What follows a token matters as well.  A name in front of a letter would be a longer
word, and a closing mark in front of another one a doubled mark.  `Apart` is the
condition that rules both out; the writer always leaves a blank, a comma or a bracket
there.
-/

namespace RowMapper.Sql

/-! ### Lexemes -/

/-- A word with a meaning of its own in conditions. -/
inductive Keyword where
  | and
  | or
  | not
  | is
  | null
  | member
  | like
  | escape
  deriving DecidableEq, Repr

namespace Keyword

/-- All keywords. -/
def all : List Keyword := [and, or, not, is, null, member, like, escape]

/-- The keyword in capitals. -/
def spelling : Keyword → List Char
  | and => ['A', 'N', 'D']
  | or => ['O', 'R']
  | not => ['N', 'O', 'T']
  | is => ['I', 'S']
  | null => ['N', 'U', 'L', 'L']
  | member => ['I', 'N']
  | like => ['L', 'I', 'K', 'E']
  | escape => ['E', 'S', 'C', 'A', 'P', 'E']

/-- The keyword that a word is, in capitals or not. -/
def ofWord? (word : List Char) : Option Keyword :=
  all.find? fun k => k.spelling == word.map Char.toUpper

end Keyword

/-- A piece of SQL text as a database takes it. -/
inductive Lexeme where
  | keyword (k : Keyword)
  /-- A name, without its quotes. -/
  | name (s : String)
  /-- A placeholder, with its place among the placeholders of the text, counted from one. -/
  | placeholder (place : Nat)
  | numeral (n : Nat)
  /-- A text literal, without its quotes. -/
  | literal (s : List Char)
  | compare (comparison : Comparison)
  | opening
  | closing
  | comma
  deriving DecidableEq, Repr

/-- Whether a character can belong to a word: a keyword, a bare name, a numeral or a
numbered placeholder. -/
def isWordChar (c : Char) : Bool := c.isAlphanum || c = '_' || c = '$' || c = '@'

/-- Whether a character can belong to a comparison. -/
def isSignChar (c : Char) : Bool := c = '=' || c = '<' || c = '>'

/-- A name that means itself when it is written bare. -/
def Plain (name : String) : Prop :=
  name.toList ≠ [] ∧ (∀ c ∈ name.toList, isWordChar c = true) ∧
    (∀ c ∈ name.toList.head?, c.isAlpha = true ∨ c = '_') ∧
    Keyword.ofWord? name.toList = none

instance (name : String) : Decidable (Plain name) :=
  decidable_of_iff (name.toList ≠ [] ∧ name.toList.all isWordChar = true ∧
      name.toList.head?.all (fun c => c.isAlpha || c = '_') = true ∧
      Keyword.ofWord? name.toList = none)
    (by cases h : name.toList.head? <;> simp [Plain, h])

/-- The content of a quoted text whose opening mark has been read, and what follows it.
Two closing marks in a row are one character of the content. -/
def readQuoted (mark : Char) : List Char → Option (List Char × List Char)
  | [] => none
  | [c] => if c = mark then some ([], []) else none
  | c :: d :: rest =>
    if c = mark then
      if d = mark then (readQuoted mark rest).map fun (s, after) => (mark :: s, after)
      else some ([], d :: rest)
    else (readQuoted mark (d :: rest)).map fun (s, after) => (c :: s, after)

/-- The comparison that a sign stands for. -/
def comparisonOf? (sign : List Char) : Option Comparison :=
  Comparison.all.find? fun comparison => comparison.sign.toList == sign

namespace Style

/-- The lexeme that a word is, where `place` is that of the next placeholder. -/
def wordLexeme? (style : Style) (place : Nat) (word : List Char) : Option Lexeme :=
  let number := word.drop style.placeholder.length
  if style.numbered ∧ style.placeholder.toList <+: word then
    if number ≠ [] ∧ number.all Char.isDigit ∧ Decimal.value number = place then
      some (.placeholder place)
    else none
  else
    match Keyword.ofWord? word with
    | some k => some (.keyword k)
    | none =>
      if word.all Char.isDigit then some (.numeral (Decimal.value word))
      else if word.head?.any Char.isDigit then none
      else some (.name (String.ofList word))

/-- The lexeme that starts with a character, and what follows it. -/
def lexeme? (style : Style) (place : Nat) (c : Char) (rest : List Char) :
    Option (Lexeme × List Char) :=
  if c = style.marks.left then
    (readQuoted style.marks.right rest).map fun (s, after) => (.name (String.ofList s), after)
  else if c = '\'' then (readQuoted '\'' rest).map fun (s, after) => (.literal s, after)
  else if c = '(' then some (.opening, rest)
  else if c = ')' then some (.closing, rest)
  else if c = ',' then some (.comma, rest)
  else if isSignChar c then
    (comparisonOf? (c :: rest.takeWhile isSignChar)).map fun comparison =>
      (.compare comparison, rest.dropWhile isSignChar)
  else if !style.numbered ∧ [c] = style.placeholder.toList then some (.placeholder place, rest)
  else if isWordChar c then
    (style.wordLexeme? place (c :: rest.takeWhile isWordChar)).map fun lexeme =>
      (lexeme, rest.dropWhile isWordChar)
  else none

/-- The place of the next placeholder after a lexeme. -/
def placeAfter (place : Nat) : Lexeme → Nat
  | .placeholder _ => place + 1
  | _ => place

/-- The lexemes of a text, where `place` is that of its first placeholder; `none` if it
holds anything else. -/
def scan (style : Style) (place : Nat) : List Char → Option (List Lexeme)
  | [] => some []
  | c :: rest =>
    if c = ' ' then style.scan place rest
    else
      match style.lexeme? place c rest with
      | none => none
      | some (lexeme, after) =>
        if after.length ≤ rest.length then
          (style.scan (placeAfter place lexeme) after).map (lexeme :: ·)
        else none
termination_by s => s.length

end Style

/-! ### What may follow a token -/

/-- A text that cannot extend the token in front of it. -/
def Apart (rest : List Char) : Prop := ∀ c ∈ rest.head?, c = ' ' ∨ c = ')' ∨ c = ','

theorem apart_nil : Apart [] := by
  intro c hc
  cases hc

theorem apart_blank (rest : List Char) : Apart (' ' :: rest) := by
  intro c hc
  obtain rfl := Option.some.inj hc
  exact .inl rfl

theorem apart_closing (rest : List Char) : Apart (')' :: rest) := by
  intro c hc
  obtain rfl := Option.some.inj hc
  exact .inr (.inl rfl)

theorem apart_comma (rest : List Char) : Apart (',' :: rest) := by
  intro c hc
  obtain rfl := Option.some.inj hc
  exact .inr (.inr rfl)

/-- A set of characters without blank, bracket and comma ends where the next token may
start. -/
theorem takeWhile_append_of_apart {p : Char → Bool} {word rest : List Char}
    (hword : ∀ c ∈ word, p c = true) (hblank : p ' ' = false) (hclosing : p ')' = false)
    (hcomma : p ',' = false) (hrest : Apart rest) :
    (word ++ rest).takeWhile p = word ∧ (word ++ rest).dropWhile p = rest := by
  have hstop : rest.takeWhile p = [] ∧ rest.dropWhile p = rest := by
    cases rest with
    | nil => exact ⟨rfl, rfl⟩
    | cons c tail =>
        have hc : p c = false := by
          rcases hrest c rfl with rfl | rfl | rfl <;> assumption
        simp [hc]
  rw [List.takeWhile_append_of_pos hword, List.dropWhile_append_of_pos hword, hstop.1, hstop.2]
  simp

theorem readQuoted_cons_of_ne {mark c : Char} (hc : c ≠ mark) (rest : List Char) :
    readQuoted mark (c :: rest) = (readQuoted mark rest).map fun (s, after) => (c :: s, after) := by
  cases rest <;> simp [readQuoted, hc]

/-- A doubled text is passed over, whatever follows it. -/
theorem readQuoted_encode_append (mark : Char) (s rest : List Char) :
    readQuoted mark (Doubled.encode mark s ++ rest) =
      (readQuoted mark rest).map fun (t, after) => (s ++ t, after) := by
  induction s with
  | nil => simp [Doubled.encode]
  | cons c s ih =>
      by_cases hc : c = mark
      · simp [Doubled.encode, readQuoted, hc, ih, Function.comp_def]
      · simp [Doubled.encode, readQuoted_cons_of_ne, hc, ih, Function.comp_def]

/-- A closing mark that no other one follows ends the text. -/
theorem readQuoted_mark {mark : Char} {rest : List Char} (hrest : rest.head? ≠ some mark) :
    readQuoted mark (mark :: rest) = some ([], rest) := by
  cases rest with
  | nil => simp [readQuoted]
  | cons d tail =>
      have hd : d ≠ mark := fun h => hrest (by simp [h])
      simp [readQuoted, hd]

/-- Scanning a written text up to its closing mark gives the text back. -/
theorem readQuoted_encode {mark : Char} (s : List Char) {rest : List Char}
    (hrest : rest.head? ≠ some mark) :
    readQuoted mark (Doubled.encode mark s ++ mark :: rest) = some (s, rest) := by
  rw [readQuoted_encode_append, readQuoted_mark hrest]
  simp

/-! ### One token, one lexeme -/

namespace Style

variable {style : Style} {place : Nat}

@[simp] theorem scan_nil : style.scan place [] = some [] := by
  rw [scan]

@[simp] theorem scan_blank (rest : List Char) :
    style.scan place (' ' :: rest) = style.scan place rest := by
  rw [scan, if_pos rfl]

/-- One step of the scan, where a lexeme starts. -/
theorem scan_of_lexeme? (lexeme : Lexeme) (after : List Char) {c : Char} {rest : List Char}
    (hc : c ≠ ' ') (h : style.lexeme? place c rest = some (lexeme, after))
    (hlen : after.length ≤ rest.length) :
    style.scan place (c :: rest) =
      (style.scan (placeAfter place lexeme) after).map (lexeme :: ·) := by
  rw [scan, if_neg hc, h]
  exact if_pos hlen

end Style

section Dialect

variable (dialect : Dialect) {place : Nat}

/-- The opening mark of a dialect is no blank and no character that other lexemes start
with. -/
theorem left_mark_of_dialect :
    dialect.style.marks.left = '"' ∨ dialect.style.marks.left = '[' ∨
      dialect.style.marks.left = '\x60' := by
  cases dialect <;> decide

theorem right_mark_of_dialect :
    dialect.style.marks.right = '"' ∨ dialect.style.marks.right = ']' ∨
      dialect.style.marks.right = '\x60' := by
  cases dialect <;> decide

theorem head?_ne_of_apart {mark : Char} {rest : List Char} (hblank : mark ≠ ' ')
    (hclosing : mark ≠ ')') (hcomma : mark ≠ ',') (hrest : Apart rest) :
    rest.head? ≠ some mark := by
  intro h
  rcases hrest mark h with rfl | rfl | rfl
  · exact hblank rfl
  · exact hclosing rfl
  · exact hcomma rfl

/-- A quoted name is one lexeme. -/
theorem scan_quoted (s : String) {rest : List Char} (hrest : Apart rest) :
    dialect.style.scan place ((Ident.quoted s).write dialect.style.marks ++ rest) =
      (dialect.style.scan place rest).map (.name s :: ·) := by
  have hleft := left_mark_of_dialect dialect
  have hright := right_mark_of_dialect dialect
  have hmark : rest.head? ≠ some dialect.style.marks.right := by
    refine head?_ne_of_apart ?_ ?_ ?_ hrest <;> rcases hright with h | h | h <;> rw [h] <;> decide
  have hread := readQuoted_encode s.toList hmark
  have hwrite : (Ident.quoted s).write dialect.style.marks ++ rest =
      dialect.style.marks.left ::
        (Doubled.encode dialect.style.marks.right s.toList ++
          dialect.style.marks.right :: rest) := by
    simp [Ident.write, Ident.quoted, QuoteMarks.enclose]
  rw [hwrite, Style.scan_of_lexeme? (.name s) rest]
  · rfl
  · rcases hleft with h | h | h <;> rw [h] <;> decide
  · simp [Style.lexeme?, hread]
  · simp
    omega

/-- A literal is one lexeme. -/
theorem scan_literal (s : List Char) {rest : List Char} (hrest : Apart rest) :
    dialect.style.scan place (writeLiteral s ++ rest) =
      (dialect.style.scan place rest).map (.literal s :: ·) := by
  have hmark : rest.head? ≠ some '\'' :=
    head?_ne_of_apart (by decide) (by decide) (by decide) hrest
  have hread := readQuoted_encode s hmark
  have hleft : '\'' ≠ dialect.style.marks.left := by
    rcases left_mark_of_dialect dialect with h | h | h <;> rw [h] <;> decide
  have hwrite : writeLiteral s ++ rest =
      '\'' :: (Doubled.encode '\'' s ++ '\'' :: rest) := by
    simp [writeLiteral, QuoteMarks.enclose]
  rw [hwrite, Style.scan_of_lexeme? (.literal s) rest]
  · rfl
  · decide
  · simp [Style.lexeme?, hread, hleft]
  · simp
    omega

/-- A word is one lexeme, if it means anything. -/
theorem scan_word (lexeme : Lexeme) {word rest : List Char} (hword : word ≠ [])
    (hchars : ∀ c ∈ word, isWordChar c = true)
    (hlexeme : dialect.style.wordLexeme? place word = some lexeme) (hrest : Apart rest) :
    dialect.style.scan place (word ++ rest) =
      (dialect.style.scan (Style.placeAfter place lexeme) rest).map (lexeme :: ·) := by
  obtain ⟨c, tail, rfl⟩ := List.exists_cons_of_ne_nil hword
  have hc : isWordChar c = true := hchars c (by simp)
  have hne : ∀ d, isWordChar d = false → c ≠ d := by
    rintro d hd rfl
    rw [hc] at hd
    cases hd
  have hleft : c ≠ dialect.style.marks.left := by
    apply hne
    rcases left_mark_of_dialect dialect with h | h | h <;> rw [h] <;> decide
  have hsign : isSignChar c = false := by
    simp [isSignChar, hne '=' (by decide), hne '<' (by decide), hne '>' (by decide)]
  have hmark : ¬ (!dialect.style.numbered ∧ [c] = dialect.style.placeholder.toList) := by
    have := hne '?' (by decide)
    cases dialect <;> simp [Dialect.style, this]
  have hspan : (tail ++ rest).takeWhile isWordChar = tail ∧
      (tail ++ rest).dropWhile isWordChar = rest :=
    takeWhile_append_of_apart (fun d hd => hchars d (by simp [hd])) (by decide) (by decide)
      (by decide) hrest
  rw [List.cons_append, Style.scan_of_lexeme? lexeme rest]
  · exact hne ' ' (by decide)
  · simp only [Style.lexeme?, if_neg hleft, if_neg (hne '\'' (by decide)),
      if_neg (hne '(' (by decide)), if_neg (hne ')' (by decide)), if_neg (hne ',' (by decide)),
      hsign, if_neg hmark, hc, hspan.1, hspan.2, hlexeme]
    rfl
  · simp

theorem le_toNat_of_isAlpha {c : Char} (h : c.isAlpha = true) : 65 ≤ c.toNat := by
  rcases Bool.or_eq_true_iff.mp h with hupper | hlower
  · exact UInt32.le_iff_toNat_le.mp (of_decide_eq_true hupper).1
  · have ha : 97 ≤ c.toNat :=
      UInt32.le_iff_toNat_le.mp (of_decide_eq_true (Bool.and_eq_true_iff.mp hlower).1)
    omega

theorem isDigit_eq_false_of_isAlpha {c : Char} (h : c.isAlpha = true) : c.isDigit = false := by
  rw [Bool.eq_false_iff]
  intro hd
  have hletter := le_toNat_of_isAlpha h
  have hdigit : c.toNat ≤ 57 := (Char.isDigit_iff_toNat.mp hd).2
  omega

/-- A word that means itself is one lexeme, a name. -/
theorem scan_plain {s : String} (hs : Plain s) {rest : List Char} (hrest : Apart rest) :
    dialect.style.scan place (s.toList ++ rest) =
      (dialect.style.scan place rest).map (.name s :: ·) := by
  obtain ⟨hne, hchars, hhead, hkeyword⟩ := hs
  obtain ⟨c, tail, hc⟩ := List.exists_cons_of_ne_nil hne
  have hfirst : c.isAlpha = true ∨ c = '_' := hhead c (by simp [hc])
  have hdigit : c.isDigit = false := by
    rcases hfirst with h | rfl
    · exact isDigit_eq_false_of_isAlpha h
    · decide
  -- no numbered placeholder starts like a name
  have hmark : ¬ (dialect.style.numbered ∧ dialect.style.placeholder.toList <+: s.toList) := by
    rintro ⟨-, hprefix⟩
    obtain ⟨d, ds, hd⟩ : ∃ d ds, dialect.style.placeholder.toList = d :: ds := by
      cases dialect <;> exact ⟨_, _, rfl⟩
    have hother : dialect.style.placeholder.toList.head?.any (fun d => d.isAlpha || d = '_') =
        false := by
      cases dialect <;> rfl
    rw [hd, hc] at hprefix
    rw [hd, (List.cons_prefix_cons.mp hprefix).1] at hother
    rcases hfirst with h | h <;> simp [h] at hother
  have hall : s.toList.all Char.isDigit = false := by simp [hc, hdigit]
  have hany : s.toList.head?.any Char.isDigit = false := by simp [hc, hdigit]
  have hlexeme : dialect.style.wordLexeme? place s.toList = some (.name s) := by
    simp [Style.wordLexeme?, hkeyword, hall, hany, hmark]
  exact scan_word dialect _ hne hchars hlexeme hrest

/-- The name of a column is one lexeme, the name itself. -/
theorem scan_column {s : String} (hs : dialect = .firebird → Plain s) {rest : List Char}
    (hrest : Apart rest) :
    dialect.style.scan place ((dialect.column s).write dialect.style.marks ++ rest) =
      (dialect.style.scan place rest).map (.name s :: ·) := by
  cases dialect with
  | firebird => exact scan_plain _ (hs rfl) hrest
  | _ => exact scan_quoted _ s hrest

/-- A keyword is one lexeme. -/
theorem scan_keyword (k : Keyword) {rest : List Char} (hrest : Apart rest) :
    dialect.style.scan place (k.spelling ++ rest) =
      (dialect.style.scan place rest).map (.keyword k :: ·) := by
  refine scan_word dialect (.keyword k) ?_ ?_ ?_ hrest
  · cases k <;> decide
  · exact List.all_eq_true.mp (by cases k <;> decide)
  · cases dialect <;> cases k <;> rfl

theorem isWordChar_of_isDigit {c : Char} (h : c.isDigit = true) : isWordChar c = true := by
  simp [isWordChar, Char.isAlphanum, h]

theorem toUpper_of_isDigit {c : Char} (h : c.isDigit = true) : c.toUpper = c := by
  have hdigit : c.toNat ≤ 57 := (Char.isDigit_iff_toNat.mp h).2
  unfold Char.toUpper
  rw [dif_neg]
  intro hlower
  have hletter : 97 ≤ c.toNat := UInt32.le_iff_toNat_le.mp hlower.1
  omega

/-- No keyword starts with a digit. -/
theorem ofWord?_eq_none_of_isDigit {c : Char} {word : List Char} (h : c.isDigit = true) :
    Keyword.ofWord? (c :: word) = none := by
  rw [Keyword.ofWord?, List.find?_eq_none]
  intro k _ hk
  have hspelling : k.spelling = c :: word.map Char.toUpper := by
    simpa [toUpper_of_isDigit h] using hk
  have hhead : k.spelling.head?.any Char.isDigit = false := by
    cases k <;> rfl
  rw [hspelling] at hhead
  simp [h] at hhead

/-- A number is one lexeme. -/
theorem scan_digits (n : Nat) {rest : List Char} (hrest : Apart rest) :
    dialect.style.scan place (Decimal.digits n ++ rest) =
      (dialect.style.scan place rest).map (.numeral n :: ·) := by
  have hdigits : (Decimal.digits n).all Char.isDigit = true :=
    List.all_eq_true.mpr fun c hc => Decimal.isDigit_of_mem_digits hc
  refine scan_word dialect (.numeral n) (Decimal.digits_ne_nil n) ?_ ?_ hrest
  · exact fun c hc => isWordChar_of_isDigit (Decimal.isDigit_of_mem_digits hc)
  · obtain ⟨c, tail, hc⟩ := List.exists_cons_of_ne_nil (Decimal.digits_ne_nil n)
    have hdigit : c.isDigit = true := Decimal.isDigit_of_mem_digits (n := n) (by simp [hc])
    have hkeyword : Keyword.ofWord? (Decimal.digits n) = none := by
      rw [hc]
      exact ofWord?_eq_none_of_isDigit hdigit
    have hmark : ¬ (dialect.style.numbered ∧
        dialect.style.placeholder.toList <+: Decimal.digits n) := by
      rintro ⟨-, hprefix⟩
      obtain ⟨d, ds, hd⟩ : ∃ d ds, dialect.style.placeholder.toList = d :: ds := by
        cases dialect <;> exact ⟨_, _, rfl⟩
      have hfirst : dialect.style.placeholder.toList.head?.any Char.isDigit = false := by
        cases dialect <;> rfl
      rw [hd, hc] at hprefix
      rw [hd, (List.cons_prefix_cons.mp hprefix).1] at hfirst
      simp [hdigit] at hfirst
    simp [Style.wordLexeme?, hkeyword, hdigits, hmark]

/-- The word of a numbered placeholder is the placeholder that is due. -/
theorem wordLexeme?_mark (hnumbered : dialect.style.numbered = true) :
    dialect.style.wordLexeme? place (dialect.style.mark place) = some (.placeholder place) := by
  have hdigits : (Decimal.digits place).all Char.isDigit = true :=
    List.all_eq_true.mpr fun c hc => Decimal.isDigit_of_mem_digits hc
  have hpart : dialect.style.placeholder.toList <+: dialect.style.mark place :=
    List.prefix_append _ _
  have hnumber : (dialect.style.mark place).drop dialect.style.placeholder.length =
      Decimal.digits place := by
    simp [Style.mark, hnumbered, ← String.length_toList]
  simp only [Style.wordLexeme?, hnumbered, hpart, hnumber]
  simp [hdigits, Decimal.digits_ne_nil]

/-- The placeholder that is due is one lexeme, and the next one is due after it. -/
theorem scan_mark {rest : List Char} (hrest : Apart rest) :
    dialect.style.scan place (dialect.style.mark place ++ rest) =
      (dialect.style.scan (place + 1) rest).map (.placeholder place :: ·) := by
  cases hnumbered : dialect.style.numbered with
  | true =>
      have hletters : dialect.style.placeholder.toList.all isWordChar = true := by
        cases dialect <;> first | rfl | cases hnumbered
      refine scan_word dialect _ ?_ ?_ (wordLexeme?_mark dialect hnumbered) hrest
      · simp [Style.mark, hnumbered, Decimal.digits_ne_nil]
      · intro c hc
        simp only [Style.mark, hnumbered, if_true, List.mem_append] at hc
        rcases hc with hc | hc
        · exact List.all_eq_true.mp hletters c hc
        · exact isWordChar_of_isDigit (Decimal.isDigit_of_mem_digits hc)
  | false =>
      have hmark : dialect.style.mark place = ['?'] := by
        cases dialect <;> first | rfl | cases hnumbered
      rw [hmark, List.singleton_append,
        Style.scan_of_lexeme? (.placeholder place) rest]
      · rfl
      · decide
      · cases dialect <;> first | rfl | cases hnumbered
      · exact Nat.le_refl _

/-! ### Signs and punctuation -/

theorem isSignChar_of_mem_sign (comparison : Comparison) :
    ∀ c ∈ comparison.sign.toList, isSignChar c = true :=
  List.all_eq_true.mp (by cases comparison <;> decide)

theorem comparisonOf?_sign (comparison : Comparison) :
    comparisonOf? comparison.sign.toList = some comparison := by
  cases comparison <;> decide

/-- The sign of a comparison is one lexeme. -/
theorem scan_sign (comparison : Comparison) {rest : List Char} (hrest : Apart rest) :
    dialect.style.scan place (comparison.sign.toList ++ rest) =
      (dialect.style.scan place rest).map (.compare comparison :: ·) := by
  have hchars := isSignChar_of_mem_sign comparison
  have hread := comparisonOf?_sign comparison
  obtain ⟨c, tail, hsign⟩ : ∃ c tail, comparison.sign.toList = c :: tail := by
    cases comparison <;> exact ⟨_, _, rfl⟩
  rw [hsign] at hchars hread ⊢
  have hc : isSignChar c = true := hchars c (by simp)
  have hne : ∀ d, isSignChar d = false → c ≠ d := by
    rintro d hd rfl
    rw [hc] at hd
    cases hd
  have hleft : c ≠ dialect.style.marks.left := by
    apply hne
    rcases left_mark_of_dialect dialect with h | h | h <;> rw [h] <;> decide
  have hspan : (tail ++ rest).takeWhile isSignChar = tail ∧
      (tail ++ rest).dropWhile isSignChar = rest :=
    takeWhile_append_of_apart (fun d hd => hchars d (by simp [hd])) (by decide) (by decide)
      (by decide) hrest
  rw [List.cons_append, Style.scan_of_lexeme? (.compare comparison) rest]
  · rfl
  · exact hne ' ' (by decide)
  · simp only [Style.lexeme?, if_neg hleft, if_neg (hne '\'' (by decide)),
      if_neg (hne '(' (by decide)), if_neg (hne ')' (by decide)), if_neg (hne ',' (by decide)),
      hc, hspan.1, hspan.2, hread]
    rfl
  · simp

theorem scan_opening (rest : List Char) :
    dialect.style.scan place ('(' :: rest) =
      (dialect.style.scan place rest).map (.opening :: ·) :=
  Style.scan_of_lexeme? _ _ (by decide) (by cases dialect <;> rfl) (Nat.le_refl _)

theorem scan_closing (rest : List Char) :
    dialect.style.scan place (')' :: rest) =
      (dialect.style.scan place rest).map (.closing :: ·) :=
  Style.scan_of_lexeme? _ _ (by decide) (by cases dialect <;> rfl) (Nat.le_refl _)

theorem scan_comma (rest : List Char) :
    dialect.style.scan place (',' :: rest) =
      (dialect.style.scan place rest).map (.comma :: ·) :=
  Style.scan_of_lexeme? _ _ (by decide) (by cases dialect <;> rfl) (Nat.le_refl _)

end Dialect

end RowMapper.Sql
