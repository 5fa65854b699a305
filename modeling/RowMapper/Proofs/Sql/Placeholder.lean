import RowMapper.Proofs.Decimal.Numeral
import RowMapper.Proofs.Outcome
import RowMapper.Proofs.Sql.Clause

/-!
# Placeholders in a text

A driver finds the placeholders of a statement by reading its text, and it passes over whatever
stands between quotes.  What it finds is compared here with the values that go with the text.

* `Style.placeholders?` — the placeholders of a text outside of quoted names and literals, from
  left to right;
* `Inert` — a text without a character that could start a quoted text or a placeholder;
* `Guarded` — tokens whose names, literals and placeholders end where the next token starts;
* `placeholders?_writeFrom` — in the text of such tokens there is one placeholder for each value,
  and they are numbered in their order;
* `placeholders?_of_build` — a query that is built from them has one placeholder for each datum.

### What a name can do

The closing mark of a name is doubled inside of the name, so no name ends early, whatever characters
it has.  A name could still run on into what follows it, if that started with another mark; and a
number could run on into a digit.  `StandsApart` rules both out.
-/

namespace RowMapper.Sql

/-! ### Reading -/

namespace Style

/-- The mark that closes the quoted text that a character opens. -/
def closing? (style : Style) (c : Char) : Option Char :=
  if c = style.marks.left then some style.marks.right
  else if c = '\'' then some '\''
  else none

/-- The placeholder at the start of a text, with its number if it carries one, and what follows. -/
def readPlaceholder? (style : Style) (s : List Char) : Option (Option Nat × List Char) :=
  match style.placeholder.toList.isPrefixOf? s with
  | none => none
  | some after =>
    if style.numbered then
      match after.takeWhile Char.isDigit with
      | [] => none
      | ds => some (some (Decimal.value ds), after.dropWhile Char.isDigit)
    else some (none, after)

/-- The placeholders of a text outside of quoted names and literals, from left to right, each with
its number if it carries one.  There is no answer for a text in which a quoted text does not end. -/
def placeholders? (style : Style) : List Char → Option (List (Option Nat))
  | [] => some []
  | c :: rest =>
    match style.closing? c with
    | some mark =>
      match readQuoted mark rest with
      | some (_, after) => if after.length ≤ rest.length then placeholders? style after else none
      | none => none
    | none =>
      match style.readPlaceholder? (c :: rest) with
      | some (number, after) =>
        if after.length ≤ rest.length then (placeholders? style after).map (number :: ·) else none
      | none => placeholders? style rest
termination_by s => s.length
decreasing_by all_goals simp_all; try omega

/-- The placeholder with a number, as it is read. -/
def label (style : Style) (number : Nat) : Option Nat :=
  if style.numbered then some number else none

/-- The placeholders of a statement with some values, from a number on. -/
def labels (style : Style) (number count : Nat) : List (Option Nat) :=
  (List.range' number count).map style.label

end Style

/-! ### Texts -/

/-- Whether a character neither opens or closes a quoted text nor starts a placeholder, in any
dialect. -/
def isInert (c : Char) : Bool := !(['"', '\'', '[', ']', '\x60', '?', '$', '@'].contains c)

/-- A text without such a character. -/
def Inert (s : String) : Prop := ∀ c ∈ s.toList, isInert c = true

instance (s : String) : Decidable (Inert s) := List.decidableBAll (isInert · = true) s.toList

/-- A text that does not go on with a quoted text or a number. -/
def Clear (rest : List Char) : Prop := ∀ c ∈ rest.head?, isInert c = true ∧ c.isDigit = false

theorem clear_nil : Clear [] := fun _ hc => by cases hc

section Dialect

variable (dialect : Dialect)

/-- A placeholder starts with a character that opens nothing else. -/
theorem exists_placeholder : ∃ first others, dialect.style.placeholder.toList = first :: others ∧
    isInert first = false ∧ dialect.style.closing? first = none := by
  cases dialect <;> exact ⟨_, _, rfl, rfl, rfl⟩

/-- A character that is inert opens nothing. -/
theorem closing?_of_isInert {c : Char} (hc : isInert c = true) : dialect.style.closing? c = none := by
  have hleft : c ≠ dialect.style.marks.left := by
    rintro rfl
    cases dialect <;> cases hc
  have hquote : c ≠ '\'' := by
    rintro rfl
    cases hc
  rw [Style.closing?, if_neg hleft, if_neg hquote]

/-- A character that is inert starts no placeholder. -/
theorem readPlaceholder?_of_isInert {c : Char} (hc : isInert c = true) (rest : List Char) :
    dialect.style.readPlaceholder? (c :: rest) = none := by
  obtain ⟨first, others, hplaceholder, hfirst, -⟩ := exists_placeholder dialect
  have hne : first ≠ c := by
    rintro rfl
    rw [hfirst] at hc
    cases hc
  rw [Style.readPlaceholder?, hplaceholder]
  have hstart : (first :: others).isPrefixOf? (c :: rest) = none := by
    show (if first == c then others.isPrefixOf? rest else none) = none
    exact if_neg (by simpa using hne)
  rw [hstart]

/-- Inert characters are passed over. -/
theorem placeholders?_append_of_inert {s : List Char} (hs : ∀ c ∈ s, isInert c = true)
    (rest : List Char) :
    dialect.style.placeholders? (s ++ rest) = dialect.style.placeholders? rest := by
  induction s with
  | nil => rfl
  | cons c s ih =>
      have hc := hs c List.mem_cons_self
      rw [List.cons_append, Style.placeholders?, closing?_of_isInert dialect hc]
      dsimp only
      rw [readPlaceholder?_of_isInert dialect hc]
      exact ih fun d hd => hs d (List.mem_cons_of_mem _ hd)

/-- What is quoted is passed over. -/
theorem placeholders?_quoted {left right : Char} (hopen : dialect.style.closing? left = some right)
    (s : List Char) {rest : List Char} (hrest : rest.head? ≠ some right) :
    dialect.style.placeholders? (QuoteMarks.enclose ⟨left, right⟩ s ++ rest) =
      dialect.style.placeholders? rest := by
  have hread := readQuoted_encode s hrest
  have htext : QuoteMarks.enclose ⟨left, right⟩ s ++ rest =
      left :: (Doubled.encode right s ++ right :: rest) := by
    simp [QuoteMarks.enclose]
  rw [htext, Style.placeholders?, hopen]
  dsimp only
  rw [hread]
  exact if_pos (by simp; omega)

/-- The mark of a placeholder is read up to the end of its number. -/
theorem readPlaceholder?_mark (style : Style) (number : Nat) {rest : List Char}
    (hrest : Clear rest) :
    style.readPlaceholder? (style.mark number ++ rest) = some (style.label number, rest) := by
  rw [Style.readPlaceholder?, Style.mark, List.append_assoc, isPrefixOf?_append, Style.label]
  cases style.numbered with
  | false => rfl
  | true =>
      have hnumeral : ∀ c ∈ Decimal.digits number, c.isDigit = true :=
        fun c hc => Decimal.isDigit_of_mem_digits hc
      have hdigits := Decimal.takeWhile_append_of_endsDigits hnumeral fun c hc => (hrest c hc).2
      simp only [if_true, hdigits.1, hdigits.2]
      split
      · next heq => exact absurd heq (Decimal.digits_ne_nil number)
      · rw [Decimal.value_digits]

/-- A placeholder is found, with its number. -/
theorem placeholders?_mark (number : Nat) {rest : List Char} (hrest : Clear rest) :
    dialect.style.placeholders? (dialect.style.mark number ++ rest) =
      (dialect.style.placeholders? rest).map (dialect.style.label number :: ·) := by
  obtain ⟨first, others, hplaceholder, -, hclosing⟩ := exists_placeholder dialect
  obtain ⟨tail, htail⟩ : ∃ tail, dialect.style.mark number ++ rest = first :: (tail ++ rest) := by
    rw [Style.mark, hplaceholder]
    exact ⟨_, rfl⟩
  have hread := readPlaceholder?_mark dialect.style number hrest
  rw [htail] at hread ⊢
  rw [Style.placeholders?, hclosing]
  dsimp only
  rw [hread]
  exact if_pos (by simp)

end Dialect

/-! ### Tokens -/

/-- What follows a name, a literal or a placeholder: nothing, or a text that does not go on with
it. -/
def StandsApart : List Token → Prop
  | [] => True
  | .text s :: _ => ∃ c ∈ s.toList.head?, isInert c = true ∧ c.isDigit = false
  | _ => False

/-- Tokens that can be told apart by their quotes: texts and bare names are inert, and what is
quoted or numbered is followed by a text. -/
def Guarded : List Token → Prop
  | [] => True
  | .text s :: rest => Inert s ∧ Guarded rest
  | .name ident :: rest => (if ident.bare then Inert ident.name else StandsApart rest) ∧ Guarded rest
  | .literal _ :: rest => StandsApart rest ∧ Guarded rest
  | .param _ :: rest => StandsApart rest ∧ Guarded rest

theorem StandsApart.append {a b : List Token} (ha : StandsApart a) (hb : StandsApart b) :
    StandsApart (a ++ b) := by
  cases a with
  | nil => exact hb
  | cons token rest =>
      cases token with
      | text s => exact ha
      | name ident => cases ha
      | literal s => cases ha
      | param v => cases ha

theorem Guarded.append {a b : List Token} (ha : Guarded a) (hb : Guarded b)
    (hapart : StandsApart b) : Guarded (a ++ b) := by
  induction a with
  | nil => exact hb
  | cons token rest ih =>
      cases token with
      | text s => exact ⟨ha.1, ih ha.2⟩
      | literal s => exact ⟨ha.1.append hapart, ih ha.2⟩
      | param v => exact ⟨ha.1.append hapart, ih ha.2⟩
      | name ident =>
          refine ⟨?_, ih ha.2⟩
          have hname := ha.1
          split
          · rwa [if_pos ‹_›] at hname
          · rw [if_neg ‹_›] at hname
            exact hname.append hapart

/-- Guarded tokens with a separator between them. -/
theorem guarded_separated {separator : String} (hinert : Inert separator)
    (hapart : StandsApart [.text separator]) {lists : List (List Token)}
    (h : ∀ tokens ∈ lists, Guarded tokens) : Guarded (separated separator lists) := by
  induction lists with
  | nil => trivial
  | cons tokens rest ih =>
      have hrest := ih fun other hother => h other (List.mem_cons_of_mem _ hother)
      have htokens := h tokens List.mem_cons_self
      cases rest with
      | nil => exact htokens
      | cons next rest => exact htokens.append ⟨hinert, hrest⟩ hapart

/-- The text of tokens that stand apart is clear. -/
theorem clear_writeFrom (style : Style) {tokens : List Token} (h : StandsApart tokens) (number : Nat)
    {rest : List Char} (hrest : Clear rest) : Clear (style.writeFrom number tokens ++ rest) := by
  cases tokens with
  | nil => exact hrest
  | cons token tokens =>
      cases token with
      | text s =>
          obtain ⟨c, hc, hclear⟩ := h
          intro d hd
          rw [Style.writeFrom, List.append_assoc, List.head?_append, Option.mem_def.mp hc] at hd
          obtain rfl := Option.some.inj hd
          exact hclear
      | name ident => cases h
      | literal s => cases h
      | param v => cases h

section Dialect

variable (dialect : Dialect)

/-- What is clear continues no quoted text. -/
theorem head?_ne_of_clear {rest : List Char} (hrest : Clear rest) {mark : Char}
    (hmark : isInert mark = false) : rest.head? ≠ some mark := by
  intro h
  have hinert := (hrest mark h).1
  rw [hmark] at hinert
  cases hinert

/-- **In the text of guarded tokens there is one placeholder for each value**, and they are numbered
in their order. -/
theorem placeholders?_writeFrom {tokens : List Token} (h : Guarded tokens) (number : Nat)
    {rest : List Char} (hrest : Clear rest) :
    dialect.style.placeholders? (dialect.style.writeFrom number tokens ++ rest) =
      (dialect.style.placeholders? rest).map
        (dialect.style.labels number (values tokens).length ++ ·) := by
  induction tokens generalizing number with
  | nil => simp [Style.writeFrom, values, Style.labels]
  | cons token tokens ih =>
      cases token with
      | text s =>
          rw [Style.writeFrom, List.append_assoc, placeholders?_append_of_inert dialect h.1]
          exact ih h.2 number
      | name ident =>
          obtain ⟨hname, htokens⟩ := h
          rw [Style.writeFrom, List.append_assoc, Ident.write]
          by_cases hbare : ident.bare = true
          · rw [if_pos hbare] at hname ⊢
            rw [placeholders?_append_of_inert dialect hname]
            exact ih htokens number
          · rw [if_neg hbare] at hname ⊢
            have hclear := clear_writeFrom dialect.style hname number hrest
            have hopen : dialect.style.closing? dialect.style.marks.left =
                some dialect.style.marks.right := if_pos rfl
            have hright : isInert dialect.style.marks.right = false := by
              cases dialect <;> rfl
            rw [placeholders?_quoted dialect hopen _ (head?_ne_of_clear hclear hright)]
            exact ih htokens number
      | literal s =>
          have hclear := clear_writeFrom dialect.style h.1 number hrest
          have hopen : dialect.style.closing? '\'' = some '\'' := by
            cases dialect <;> rfl
          rw [Style.writeFrom, List.append_assoc, writeLiteral,
            placeholders?_quoted dialect hopen _ (head?_ne_of_clear hclear rfl)]
          exact ih h.2 number
      | param v =>
          have hclear := clear_writeFrom dialect.style h.1 (number + 1) hrest
          rw [Style.writeFrom, List.append_assoc, placeholders?_mark dialect number hclear,
            ih h.2 (number + 1), Option.map_map, values, List.length_cons]
          rfl

end Dialect

/-- What is built from guarded tokens has one placeholder for each of its data. -/
theorem placeholders?_of_build {dialect : Dialect} {tokens : List Token} {query : Query}
    (h : Query.build dialect.style tokens = .ok query) (htokens : Guarded tokens)
    {appended : List Char} (happended : Clear appended)
    (hinert : ∀ c ∈ appended, isInert c = true) :
    dialect.style.placeholders? (query.sql.toList ++ appended) =
      some (dialect.style.labels 1 query.params.length) := by
  obtain ⟨data, hdata, h⟩ := exists_of_bind_eq_ok h
  obtain rfl := Except.ok.inj h
  have hcount : data.length = (values tokens).length := length_of_mapM_eq_ok hdata
  have hrest := placeholders?_append_of_inert dialect hinert []
  rw [List.append_nil, Style.placeholders?] at hrest
  show dialect.style.placeholders? ((String.ofList _).toList ++ appended) = _
  rw [String.toList_ofList, placeholders?_writeFrom dialect htokens 1 happended, hrest,
    Option.map_some, List.append_nil, hcount]

end RowMapper.Sql
