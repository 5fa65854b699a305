import Mathlib.Data.List.Infix
import RowMapper.Proofs.Filter.Where

/-!
# LIKE patterns match what was asked for

* `LikeRules`, `LikeRules.read?` — how a database reads a pattern: wildcards, the character that
  takes the meaning from the next one, and sets of characters between brackets;
* `LikeItem.fits` — when a text is matched, by trying every way to spend it on the pattern;
* `Dialect.likeRules` — the rules of each dialect, given the `ESCAPE` clause of a condition;
* `read?_escape`, `fits_exact` — an escaped text is read as items that stand for its characters,
  and these items match the text itself and nothing else, next to any other pattern;
* `Filter.pattern_exact` — the patterns of the three text methods match what the methods say.

### What is load-bearing

The rules of a dialect do not come from the way in which the library escapes.  They say what the
database does with the condition that it is sent: Postgres and MySQL have a backslash to escape with
anyway, SQLite and Firebird only because the clause names it, and the two SQL Servers never, but
there brackets have a meaning.

An escaped text ends outside of every set and after every escaped character.  So the wildcard behind
it is read as a wildcard, whatever the text ends with, and the wildcard in front of it does not
reach into it.  A wildcard may still spend characters of the text in more than one way; the three
methods only ask whether one of them works.
-/

namespace RowMapper

open Sql

/-! ### Reading and matching -/

/-- How a database reads patterns. -/
structure LikeRules where
  /-- The character that takes the meaning from the next one. -/
  escape : Option Char
  /-- Whether brackets enclose sets of characters. -/
  sets : Bool

/-- A piece of a pattern. -/
inductive LikeItem where
  /-- Any sequence of characters. -/
  | anything
  /-- Any one character. -/
  | one
  | literal (c : Char)
  /-- One character of a set, of which the text between the brackets is given. -/
  | set (content : List Char)
  deriving DecidableEq, Repr

/-- Where the reader of a pattern is. -/
inductive LikeReader where
  | outside
  /-- Behind the character that takes the meaning from the next one. -/
  | escaped
  /-- Behind the start of a set and some of its content. -/
  | inside (content : List Char)

/-- The items of a pattern; `none` if it ends inside a set or behind an escape. -/
def LikeRules.read? (rules : LikeRules) : LikeReader → List Char → Option (List LikeItem)
  | .outside, [] => some []
  | .escaped, [] | .inside _, [] => none
  | .outside, c :: rest =>
    if rules.escape = some c then rules.read? .escaped rest
    else if rules.sets ∧ c = '[' then rules.read? (.inside []) rest
    else if c = '%' then (rules.read? .outside rest).map (.anything :: ·)
    else if c = '_' then (rules.read? .outside rest).map (.one :: ·)
    else (rules.read? .outside rest).map (.literal c :: ·)
  | .escaped, c :: rest => (rules.read? .outside rest).map (.literal c :: ·)
  | .inside content, c :: rest =>
    if c = ']' then (rules.read? .outside rest).map (.set content :: ·)
    else rules.read? (.inside (content ++ [c])) rest

namespace LikeItem

/-- Whether a character is among some characters and ranges `a-z`. -/
def inRanges : List Char → Char → Bool
  | a :: '-' :: b :: rest, c => (a ≤ c && c ≤ b) || inRanges rest c
  | a :: rest, c => a == c || inRanges rest c
  | [], _ => false

/-- Whether a character is in a set, which a circumflex at the start negates. -/
def inSet : List Char → Char → Bool
  | '^' :: content, c => !inRanges content c
  | content, c => inRanges content c

/-- Whether an item can stand for a character. -/
def accepts : LikeItem → Char → Bool
  | anything, _ | one, _ => true
  | literal c, d => c == d
  | set content, d => inSet content d

/-- Whether a text is matched by items. -/
def fits : List LikeItem → List Char → Bool
  | [], text => text.isEmpty
  | anything :: items, text => text.tails.any fun rest => fits items rest
  | _ :: _, [] => false
  | item :: items, c :: text => item.accepts c && fits items text

end LikeItem

/-- Whether a text is matched by a pattern. -/
def LikeRules.likes (rules : LikeRules) (pattern text : List Char) : Bool :=
  (rules.read? .outside pattern).any fun items => LikeItem.fits items text

/-- The rules of a dialect, for a condition with the given `ESCAPE` clause. -/
def Dialect.likeRules (dialect : Dialect) (clause : Option Char) : LikeRules where
  escape := clause.or <| match dialect with
    | postgres | mySql => some '\\'
    | _ => none
  sets := match dialect with
    | sqlServer | sqlServerCompact => true
    | _ => false

/-- The rules under which a way to escape makes sense. -/
def LikeEscape.rules : LikeEscape → LikeRules
  | .backslash => ⟨some '\\', false⟩
  | .bracket => ⟨none, true⟩

theorem Dialect.likeRules_escapeChar? (dialect : Dialect) :
    dialect.likeRules dialect.escapeChar? = dialect.likeEscape.rules := by
  cases dialect <;> rfl

/-! ### Escaped texts -/

namespace LikeEscape

/-- The item as which a character of an escaped text is read. -/
def item : LikeEscape → Char → LikeItem
  | .backslash, c => .literal c
  | .bracket, c => if bracket.isSpecial c then .set [c] else .literal c

variable (escape : LikeEscape)

theorem isSpecial_bracket_cases {c : Char} (h : bracket.isSpecial c = true) :
    c = '[' ∨ c = '%' ∨ c = '_' := by
  simpa [isSpecial, or_assoc] using h

theorem item_ne_anything (c : Char) : escape.item c ≠ .anything := by
  cases escape with
  | backslash => simp [item]
  | bracket => rw [item]; split <;> simp

theorem accepts_item (c d : Char) : (escape.item c).accepts d = (c == d) := by
  cases escape with
  | backslash => rfl
  | bracket =>
      by_cases hc : bracket.isSpecial c = true
      · rw [item, if_pos hc]
        rcases isSpecial_bracket_cases hc with rfl | rfl | rfl <;>
          simp [LikeItem.accepts, LikeItem.inSet, LikeItem.inRanges]
      · rw [item, if_neg hc]
        rfl

/-- One character of an escaped text is read as one item. -/
theorem read?_escape_char (c : Char) (rest : List Char) :
    escape.rules.read? .outside ((if escape.isSpecial c then escape.guardChar c else [c]) ++ rest) =
      (escape.rules.read? .outside rest).map (escape.item c :: ·) := by
  by_cases hc : escape.isSpecial c = true
  · rw [if_pos hc]
    cases escape with
    | backslash => simp [guardChar, rules, LikeRules.read?, item]
    | bracket =>
        have hclosing : c ≠ ']' := by
          rintro rfl
          exact absurd hc (by decide)
        simp [guardChar, rules, LikeRules.read?, item, hc, hclosing]
  · rw [if_neg hc]
    cases escape with
    | backslash =>
        obtain ⟨⟨hbackslash, hpercent⟩, hunderscore⟩ : (c ≠ '\\' ∧ c ≠ '%') ∧ c ≠ '_' := by
          simpa [isSpecial] using hc
        simp [rules, LikeRules.read?, item, hbackslash.symm, hpercent, hunderscore]
    | bracket =>
        obtain ⟨⟨hopening, hpercent⟩, hunderscore⟩ : (c ≠ '[' ∧ c ≠ '%') ∧ c ≠ '_' := by
          simpa [isSpecial] using hc
        simp [rules, LikeRules.read?, item, hc, hopening, hpercent, hunderscore]

/-- An escaped text is read as one item for each of its characters, whatever follows it. -/
theorem read?_escape (v rest : List Char) :
    escape.rules.read? .outside (escape.escape v ++ rest) =
      (escape.rules.read? .outside rest).map (v.map escape.item ++ ·) := by
  induction v with
  | nil => simp [LikeEscape.escape]
  | cons c v ih =>
      have hsplit : escape.escape (c :: v) ++ rest =
          (if escape.isSpecial c then escape.guardChar c else [c]) ++ (escape.escape v ++ rest) := by
        simp [LikeEscape.escape]
      rw [hsplit, read?_escape_char, ih, Option.map_map]
      rfl

/-- A wildcard is read as such. -/
theorem read?_percent (rest : List Char) :
    escape.rules.read? .outside ('%' :: rest) =
      (escape.rules.read? .outside rest).map (.anything :: ·) := by
  cases escape <;> simp [rules, LikeRules.read?]

theorem fits_item_nil (c : Char) (items : List LikeItem) :
    LikeItem.fits (escape.item c :: items) [] = false := by
  rw [LikeItem.fits]
  exact escape.item_ne_anything c

theorem fits_item_cons (c d : Char) (items : List LikeItem) (text : List Char) :
    LikeItem.fits (escape.item c :: items) (d :: text) = (c == d && LikeItem.fits items text) := by
  rw [LikeItem.fits, accepts_item]
  exact escape.item_ne_anything c

/-- The items of an escaped text match the text itself, and leave the rest to what follows. -/
theorem fits_exact (v : List Char) (items : List LikeItem) (text : List Char) :
    LikeItem.fits (v.map escape.item ++ items) text = true ↔
      ∃ rest, text = v ++ rest ∧ LikeItem.fits items rest = true := by
  induction v generalizing text with
  | nil => simp
  | cons c v ih =>
      cases text with
      | nil => simp [fits_item_nil]
      | cons d text =>
          rw [List.map_cons, List.cons_append, fits_item_cons, Bool.and_eq_true, ih]
          simp only [beq_iff_eq, List.cons_append, List.cons.injEq]
          constructor
          · rintro ⟨rfl, rest, rfl, hrest⟩
            exact ⟨rest, ⟨rfl, rfl⟩, hrest⟩
          · rintro ⟨rest, ⟨rfl, rfl⟩, hrest⟩
            exact ⟨rfl, rest, rfl, hrest⟩

end LikeEscape

namespace LikeItem

/-- A wildcard spends any part of the text, and leaves the rest to what follows. -/
theorem fits_anything (items : List LikeItem) (text : List Char) :
    fits (.anything :: items) text = true ↔ ∃ rest, rest <:+ text ∧ fits items rest = true := by
  simp [fits]

/-- A wildcard at the end matches whatever is left. -/
theorem fits_anything_nil (text : List Char) : fits [.anything] text = true :=
  (fits_anything [] text).mpr ⟨[], text.nil_suffix, rfl⟩

end LikeItem

/-! ### The three methods -/

/-- What a text method says of a text, by the text that it looks for. -/
def Method.Finds (method : Method) (sought text : List Char) : Prop :=
  match method with
  | .startsWith => sought <+: text
  | .endsWith => sought <:+ text
  | .contains => sought <:+: text
  | _ => False

namespace LikeEscape

variable (escape : LikeEscape)

/-- An escaped text in front of a wildcard matches what starts with the text. -/
theorem likes_startsWith (v text : List Char) :
    escape.rules.likes (escape.escape v ++ ['%']) text = true ↔ v <+: text := by
  rw [LikeRules.likes, read?_escape, read?_percent]
  simp only [LikeRules.read?, Option.map_some, Option.any_some, fits_exact]
  constructor
  · rintro ⟨rest, rfl, -⟩
    exact List.prefix_append v rest
  · rintro ⟨rest, rfl⟩
    exact ⟨rest, rfl, LikeItem.fits_anything_nil rest⟩

/-- An escaped text behind a wildcard matches what ends with the text. -/
theorem likes_endsWith (v text : List Char) :
    escape.rules.likes ('%' :: escape.escape v) text = true ↔ v <:+ text := by
  have hread := read?_escape escape v []
  rw [List.append_nil] at hread
  rw [LikeRules.likes, read?_percent, hread]
  simp only [LikeRules.read?, Option.map_some, Option.any_some, LikeItem.fits_anything, fits_exact]
  constructor
  · rintro ⟨rest, hrest, tail, rfl, htail⟩
    obtain rfl : tail = [] := List.isEmpty_iff.mp htail
    simpa using hrest
  · intro h
    exact ⟨v, h, [], by simp, rfl⟩

/-- An escaped text between two wildcards matches what has the text in it. -/
theorem likes_contains (v text : List Char) :
    escape.rules.likes ('%' :: (escape.escape v ++ ['%'])) text = true ↔ v <:+: text := by
  rw [LikeRules.likes, read?_percent, read?_escape, read?_percent]
  simp only [LikeRules.read?, Option.map_some, Option.any_some, LikeItem.fits_anything, fits_exact]
  constructor
  · rintro ⟨_, ⟨before, rfl⟩, rest, rfl, -⟩
    exact ⟨before, rest, by simp⟩
  · rintro ⟨before, after, rfl⟩
    exact ⟨v ++ after, ⟨before, by simp⟩, after, rfl, [], after.nil_suffix, rfl⟩

end LikeEscape

namespace Filter

/-- The pattern of a text method matches what the method says. -/
theorem likes_pattern (dialect : Dialect) {method : Method}
    (hmethod : method = .startsWith ∨ method = .endsWith ∨ method = .contains)
    (sought text : String) :
    (dialect.likeRules dialect.escapeChar?).likes
        (pattern method (dialect.escapeLike sought)).toList text.toList = true ↔
      method.Finds sought.toList text.toList := by
  rw [dialect.likeRules_escapeChar?]
  rcases hmethod with rfl | rfl | rfl
  · simpa [pattern, Dialect.escapeLike, Method.Finds] using
      dialect.likeEscape.likes_startsWith sought.toList text.toList
  · simpa [pattern, Dialect.escapeLike, Method.Finds] using
      dialect.likeEscape.likes_endsWith sought.toList text.toList
  · simpa [pattern, Dialect.escapeLike, Method.Finds] using
      dialect.likeEscape.likes_contains sought.toList text.toList

/-- The text of a constant is what a method looks for. -/
theorem likeText_of_constant (method : Method) {arg : Predicate} {value : Value} {sought : String}
    (harg : arg.unwrap = .constant value) (hvalue : value.likeText? = some sought) :
    likeText method [arg] = .ok sought := by
  cases value with
  | string s =>
      obtain rfl : s = some sought := hvalue
      simp [likeText, harg]
  | char c =>
      obtain ⟨c, rfl, rfl⟩ := Option.map_eq_some_iff.mp hvalue
      simp [likeText, harg]
  | _ => cases hvalue

variable {filter : Filter}

/-- Type conversions around a call have no effect. -/
theorem compileNode_of_call {kind : String} {e target : Predicate} {method : Method}
    {args : List Predicate} (he : e.unwrap = .call method target args) :
    filter.compileNode kind e = filter.call method target args := by
  fun_induction Predicate.unwrap e with
  | case1 operand ih => rw [compileNode, ih he]
  | case2 node =>
      subst he
      rw [compileNode]

/-- **LIKE patterns are exact.**  A text method compiles to a condition with one placeholder, and
under the rules of the dialect (`Dialect.likeRules`), with the `ESCAPE` clause if there is one, the
pattern that is bound to it matches the texts that start with the given text, end with it or have it
in them (`Method.Finds`), and no others, whatever characters the two texts hold. -/
theorem pattern_exact {e target arg : Predicate} {method : Method} {property : String}
    {p : Property} {value : Value} {sought : String}
    (hmethod : method = .startsWith ∨ method = .endsWith ∨ method = .contains)
    (he : e.unwrap = .call method target [arg]) (htarget : target.unwrap = .column property)
    (harg : arg.unwrap = .constant value) (hvalue : value.likeText? = some sought)
    (hproperty : filter.descriptor.property property = .ok p) :
    ∃ bound clause, filter.compile e =
        .ok (.like (filter.dialect.column p.column) bound clause) ∧
      values (Condition.like (filter.dialect.column p.column) bound clause).tokens =
        [.string (some bound)] ∧
      ∀ text : String, (filter.dialect.likeRules clause).likes bound.toList text.toList = true ↔
        method.Finds sought.toList text.toList := by
  refine ⟨pattern method (filter.dialect.escapeLike sought), filter.dialect.escapeChar?, ?_, ?_,
    likes_pattern filter.dialect hmethod sought⟩
  · have hcolumn : filter.column property = .ok (filter.dialect.column p.column) := by
      rw [column, hproperty]
      rfl
    have htext := likeText_of_constant method harg hvalue
    rw [compile, compileNode_of_call he]
    rcases hmethod with rfl | rfl | rfl <;> simp only [call, htarget, htext, hcolumn] <;> rfl
  · cases filter.dialect.escapeChar? <;> rfl

theorem pattern_exact_brackets :
    ∃ bound clause, Filter.compile ⟨Sample.notes.descriptor, .sqlServer⟩
        (.convert (.callWith .endsWith (.column "body") (.string (some "%[^_]\\")))) =
          .ok (.like (Dialect.sqlServer.column "body") bound clause) ∧
      values (Condition.like (Dialect.sqlServer.column "body") bound clause).tokens =
        [.string (some bound)] ∧
      ∀ text : String, (Dialect.sqlServer.likeRules clause).likes bound.toList text.toList = true ↔
        Method.endsWith.Finds "%[^_]\\".toList text.toList :=
  pattern_exact (p := ⟨"body", "body", "String", false, false, false, false, true⟩)
    (.inr (.inl rfl)) rfl rfl rfl rfl rfl

example : (Dialect.sqlServer.likeRules none).likes "%[%][[]^[_]]\\".toList
    "a%[^_]\\".toList = true := by decide

end Filter

end RowMapper
