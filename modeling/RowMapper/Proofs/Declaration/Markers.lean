import Mathlib.Data.List.Forall2
import RowMapper.Declaration.Model
import RowMapper.Proofs.Outcome

/-!
# Lists of markers

An attribute for entities lists markers, with commas between them.

* `Marker.Undivided`, `Lists`, `ListAll` — how markers are written: in an attribute, and in several;
* `Means` — what a marker of a vocabulary means: its name is known, and behind it stands a literal
  if one is due, and nothing else;
* `readMarkers_eq_ok_iff`, `readAttribute_eq_ok_iff` — a list is read if each of its markers means
  something;
* `mapM_readAttribute_eq_ok_iff` — the same of several attributes, whichever of them a marker stands
  in.

### Where a marker ends

What is written between two commas may be anything whose brackets have partners, with commas of its
own inside of these.  The reader does not look for the next comma.  It reads a name and a literal,
and then asks for one.  Both agree on where the marker ends (`Marker.Undivided.eq_of_append`), since
what is read has no brackets: a comma right behind it stands in none, and it goes past none.

The brackets are followed by `Bracketing`, which says what one token does to those that are open.
-/

namespace RowMapper.Declaration

/-! ### Brackets -/

/-- The brackets that are to be closed before a token and after it. -/
inductive Bracketing : List Char → Token → List Char → Prop where
  | opening {expected : List Char} {c d : Char} (h : Token.closing? c = some d) :
    Bracketing expected (.mark c) (d :: expected)
  | closing {expected : List Char} {c : Char} (h : c ∈ Token.closings) :
    Bracketing (c :: expected) (.mark c) expected
  | other {expected : List Char} {token : Token}
    (h : ∀ c, token = .mark c → Token.closing? c = none ∧ c ∉ Token.closings) :
    Bracketing expected token expected

/-- No bracket closes others and is closed itself. -/
theorem closing?_of_mem_closings {c : Char} (h : c ∈ Token.closings) :
    Token.closing? c = none := by
  simp only [Token.closings, List.mem_cons, List.not_mem_nil, or_false] at h
  rcases h with rfl | rfl | rfl <;> rfl

theorem mem_closings_of_closing? {c d : Char} (h : Token.closing? c = some d) :
    d ∈ Token.closings := by
  unfold Token.closing? at h
  split at h <;> cases h <;> decide

namespace Bracketing

variable {expected after : List Char} {token : Token}

theorem balanced_cons (h : Bracketing expected token after) (rest : List Token) :
    Token.balanced expected (token :: rest) = Token.balanced after rest := by
  cases h with
  | opening h => rw [Token.balanced, h]
  | closing h =>
      rw [Token.balanced, closing?_of_mem_closings h]
      simp [h]
  | other h =>
      cases token with
      | mark c =>
          obtain ⟨hopening, hclosing⟩ := h c rfl
          rw [Token.balanced, hopening]
          exact if_neg hclosing
      | word s => rfl
      | text s spelling => rfl
      | number spelling => rfl
      | literal spelling => rfl
      | path => rfl
      | arrow => rfl

theorem append (h : Bracketing expected token after) (outer : List Char) :
    Bracketing (expected ++ outer) token (after ++ outer) := by
  cases h with
  | opening h => exact .opening h
  | closing h => exact .closing h
  | other h => exact .other h

theorem untilClosed_cons (h : Bracketing expected token after) (rest : List Token) :
    untilClosed expected.length (token :: rest) = token :: untilClosed after.length rest := by
  cases h with
  | @opening _ c d h =>
      have hopening : Token.mark c ∈ [.mark '(', .mark '[', .mark '\x7b'] := by
        unfold Token.closing? at h
        split at h <;> simp at h ⊢
      rw [untilClosed.eq_def]
      dsimp only
      rw [if_pos hopening]
      rfl
  | @closing _ c h =>
      have hopening : Token.mark c ∉ [.mark '(', .mark '[', .mark '\x7b'] := by
        simp only [Token.closings, List.mem_cons, List.not_mem_nil, or_false] at h
        rcases h with rfl | rfl | rfl <;> decide
      have hclosing : Token.mark c ∈ [.mark ')', .mark ']', .mark '\x7d'] := by
        simpa [Token.closings] using h
      rw [List.length_cons, untilClosed, if_neg hopening, if_pos hclosing]
  | other h =>
      have hopening : token ∉ [.mark '(', .mark '[', .mark '\x7b'] := by
        intro hmem
        simp only [List.mem_cons, List.not_mem_nil, or_false] at hmem
        rcases hmem with rfl | rfl | rfl <;> exact absurd (h _ rfl).1 (by decide)
      have hclosing : token ∉ [.mark ')', .mark ']', .mark '\x7d'] := by
        intro hmem
        simp only [List.mem_cons, List.not_mem_nil, or_false] at hmem
        rcases hmem with rfl | rfl | rfl <;> exact absurd (h _ rfl).2 (by decide)
      rw [untilClosed.eq_def]
      dsimp only
      rw [if_neg hopening, if_neg hclosing]

end Bracketing

/-- The first of some tokens whose brackets have partners. -/
theorem exists_bracketing {expected : List Char} {token : Token} {rest : List Token}
    (h : Token.balanced expected (token :: rest) = true) :
    ∃ after, Bracketing expected token after := by
  cases token with
  | mark c =>
      cases hopening : Token.closing? c with
      | some d => exact ⟨_, .opening hopening⟩
      | none =>
          by_cases hclosing : c ∈ Token.closings
          · rw [Token.balanced, hopening] at h
            simp only [hclosing, if_true, Bool.and_eq_true, decide_eq_true_iff] at h
            obtain ⟨more, rfl⟩ := List.head?_eq_some_iff.mp h.1
            exact ⟨more, .closing hclosing⟩
          · exact ⟨_, .other fun d hd => by
              obtain rfl := Token.mark.inj hd
              exact ⟨hopening, hclosing⟩⟩
  | word s => exact ⟨_, .other nofun⟩
  | text s spelling => exact ⟨_, .other nofun⟩
  | number spelling => exact ⟨_, .other nofun⟩
  | literal spelling => exact ⟨_, .other nofun⟩
  | path => exact ⟨_, .other nofun⟩
  | arrow => exact ⟨_, .other nofun⟩

/-- Tokens whose brackets have partners change nothing about those around them. -/
theorem balanced_append {tokens : List Token} {inner : List Char}
    (h : Token.balanced inner tokens = true) (outer : List Char) (rest : List Token) :
    Token.balanced (inner ++ outer) (tokens ++ rest) = Token.balanced outer rest := by
  induction tokens generalizing inner with
  | nil =>
      obtain rfl : inner = [] := by simpa [Token.balanced] using h
      rfl
  | cons token tokens ih =>
      obtain ⟨after, hafter⟩ := exists_bracketing h
      rw [hafter.balanced_cons] at h
      rw [List.cons_append, (hafter.append outer).balanced_cons, ih h]

/-- Tokens whose brackets have partners are all of those before the next bracket that closes. -/
theorem untilClosed_of_balanced {tokens : List Token} {inner : List Char} {c : Char}
    (h : Token.balanced inner tokens = true) (hc : c ∈ Token.closings) (rest : List Token) :
    untilClosed inner.length (tokens ++ .mark c :: rest) = tokens := by
  induction tokens generalizing inner with
  | nil =>
      obtain rfl : inner = [] := by simpa [Token.balanced] using h
      simp only [Token.closings, List.mem_cons, List.not_mem_nil, or_false] at hc
      rcases hc with rfl | rfl | rfl <;> rfl
  | cons token tokens ih =>
      obtain ⟨after, hafter⟩ := exists_bracketing h
      rw [hafter.balanced_cons] at h
      rw [List.cons_append, hafter.untilClosed_cons, ih h]

/-! ### Markers -/

/-- A marker as it is written: the tokens between two commas. -/
abbrev Marker := List Token

/-- Tokens that commas do not divide: there are some, their brackets have partners, and a comma
among them stands in brackets. -/
structure Marker.Undivided (marker : Marker) : Prop where
  ne_nil : marker ≠ []
  balanced : Token.balanced [] marker = true
  comma {before after : List Token} :
    marker = before ++ .mark ',' :: after → Token.balanced [] before = false

/-- The markers that an attribute lists between its brackets, with commas between them and maybe one
behind them.  What is not for entities lists none. -/
inductive Lists : List Token → List Marker → Prop where
  | list {opening closing : Char} {markers : List Marker} {trailing : List Token}
    (hclosing : Token.closing? opening = some closing)
    (hmarkers : ∀ marker ∈ markers, marker.Undivided)
    (htrailing : trailing = [] ∨ markers ≠ [] ∧ trailing = [.mark ',']) :
    Lists (.word "entity" :: .mark opening ::
      ([.mark ','].intercalate markers ++ trailing ++ [.mark closing])) markers
  | foreign {tokens : List Token}
    (h : ∀ rest, tokens = .word "entity" :: rest → rest.head? = some .path) : Lists tokens []

/-- Markers without commas are not divided by any. -/
theorem Lists.of_comma_not_mem {opening closing : Char} {markers : List Marker}
    {trailing : List Token} (hclosing : Token.closing? opening = some closing)
    (htrailing : trailing = [] ∨ markers ≠ [] ∧ trailing = [.mark ','])
    (h : ∀ marker ∈ markers,
      marker ≠ [] ∧ Token.balanced [] marker = true ∧ Token.mark ',' ∉ marker) :
    Lists (.word "entity" :: .mark opening ::
      ([.mark ','].intercalate markers ++ trailing ++ [.mark closing])) markers := by
  refine .list hclosing (fun marker hmarker => ?_) htrailing
  obtain ⟨hne, hbalanced, hcomma⟩ := h marker hmarker
  exact ⟨hne, hbalanced, fun h => absurd (by simp [h]) hcomma⟩

/-- The markers that attributes list, one attribute after the other. -/
inductive ListAll : List (List Token) → List Marker → Prop where
  | nil : ListAll [] []
  | cons {tokens : List Token} {attributes : List (List Token)} {markers others : List Marker}
    (h : Lists tokens markers) (hothers : ListAll attributes others) :
    ListAll (tokens :: attributes) (markers ++ others)

/-! ### What a marker means -/

/-- The literal after the name of a marker, and what the marker means with it. -/
inductive Form.Writes {α : Type} : Form α → List Token → α → Prop where
  | flag {meaning : α} : Writes (.flag meaning) [] meaning
  | text {meaning : String → α} (s spelling : String) :
    Writes (.text meaning) [.mark '=', .text s spelling] (meaning s)
  | bool {meaning : Bool → α} (b : Bool) :
    Writes (.bool meaning) [.mark '=', .word (if b then "true" else "false")] (meaning b)

/-- A marker of a vocabulary: its name, and a literal if one is due. -/
def Means {α : Type} (vocabulary : String → Option (Form α)) (marker : Marker) (meaning : α) :
    Prop :=
  ∃ name form literal, marker = .word name :: literal ∧ vocabulary name = some form ∧
    form.Writes literal meaning

section Read

variable {α : Type} {form : Form α} {meaning : α}

theorem Form.Writes.read {literal : List Token} (h : form.Writes literal meaning)
    (rest : List Token) :
    form.read (literal ++ rest) =
      .ok (meaning, ⟨rest, (List.suffix_append literal rest).length_le⟩) := by
  cases h with
  | flag => rfl
  | text s spelling => rfl
  | bool b => cases b <;> rfl

theorem Form.exists_of_read {tokens : List Token} {rest : Rest tokens}
    (h : form.read tokens = .ok (meaning, rest)) :
    ∃ literal, tokens = literal ++ rest.val ∧ form.Writes literal meaning := by
  cases form with
  | flag meaning =>
      cases h
      exact ⟨[], rfl, .flag⟩
  | text meaning =>
      unfold Form.read at h
      dsimp only at h
      split at h <;> cases h
      exact ⟨[_, _], rfl, .text _ _⟩
  | bool meaning =>
      unfold Form.read at h
      dsimp only at h
      split at h <;> cases h
      · exact ⟨[_, _], rfl, .bool true⟩
      · exact ⟨[_, _], rfl, .bool false⟩

theorem readName_word {rest : List Token} (name : String) (h : rest.head? ≠ some .path) :
    readName (.word name :: rest) = .ok (some name, ⟨rest, Nat.lt_succ_self rest.length⟩) := by
  have hpath : readPath rest = .ok (false, ⟨rest, Nat.le_refl _⟩) := by
    unfold readPath
    split <;> first | rfl | exact absurd rfl h
  rw [readName, hpath]
  rfl

theorem eq_of_readPath {tokens : List Token} {rest : Rest tokens}
    (h : readPath tokens = .ok (false, rest)) : rest.val = tokens ∧ tokens.head? ≠ some .path := by
  unfold readPath at h
  split at h
  · obtain ⟨more, -, h⟩ := exists_of_bind_eq_ok h
    cases h
  · cases h
  · next hword hpath =>
      cases h
      refine ⟨rfl, fun hhead => ?_⟩
      obtain ⟨more, rfl⟩ := List.head?_eq_some_iff.mp hhead
      exact hpath more rfl

theorem eq_of_readName {tokens : List Token} {name : String}
    {rest : { rest : List Token // rest.length < tokens.length }}
    (h : readName tokens = .ok (some name, rest)) : tokens = .word name :: rest.val := by
  unfold readName at h
  split at h
  · next name' rest' =>
      obtain ⟨⟨long, more⟩, hpath, h⟩ := exists_of_bind_eq_ok h
      cases long with
      | true => cases h
      | false =>
          cases h
          rw [(eq_of_readPath hpath).1]
  · obtain ⟨more, -, h⟩ := exists_of_bind_eq_ok h
    cases h
  all_goals cases h

end Read

section ReadMarkers

variable {α : Type} {vocabulary : String → Option (Form α)} {unsupported : Fault}
  {meaning : α} {meanings : List α}

/-- The first marker that is read, and what follows it. -/
theorem exists_of_readMarkers {tokens : List Token}
    (h : readMarkers vocabulary unsupported tokens = .ok meanings) :
    ∃ marker rest meaning, tokens = marker ++ rest ∧ Means vocabulary marker meaning ∧
      ((rest = [] ∨ rest = [.mark ',']) ∧ meanings = [meaning] ∨
        ∃ next others later, rest = .mark ',' :: next :: others ∧
          readMarkers vocabulary unsupported (next :: others) = .ok later ∧
          meanings = meaning :: later) := by
  rw [readMarkers] at h
  obtain ⟨⟨name, rest⟩, hname, h⟩ := exists_of_bind_eq_ok h
  dsimp only at h
  split at h
  · cases h
  · next form hform =>
      obtain ⟨name, rfl, hform⟩ := Option.bind_eq_some_iff.mp hform
      obtain ⟨⟨meaning, more⟩, hread, h⟩ := exists_of_bind_eq_ok h
      obtain ⟨literal, hliteral, hwrites⟩ := Form.exists_of_read hread
      refine ⟨.word name :: literal, more.val, meaning, ?_,
        ⟨name, form, literal, rfl, hform, hwrites⟩, ?_⟩
      · exact (eq_of_readName hname).trans (congrArg (Token.word name :: ·) hliteral)
      · dsimp only at h
        split at h
        · next hmore =>
            cases h
            exact .inl ⟨.inl hmore, rfl⟩
        · next hmore =>
            cases h
            exact .inl ⟨.inr hmore, rfl⟩
        · next next others hmore =>
            obtain ⟨later, hlater, h⟩ := exists_of_bind_eq_ok h
            cases h
            exact .inr ⟨next, others, later, hmore, hlater, rfl⟩
        · cases h

/-- A marker is read, and then what follows it. -/
theorem readMarkers_append {marker : Marker} (h : Means vocabulary marker meaning)
    (rest : List Token) : rest.head? ≠ some .path →
    readMarkers vocabulary unsupported (marker ++ rest) =
      match rest with
      | [] | [.mark ','] => .ok [meaning]
      | .mark ',' :: next :: others =>
        (meaning :: ·) <$> readMarkers vocabulary unsupported (next :: others)
      | _ => .error .expectedComma := by
  intro hrest
  obtain ⟨name, form, literal, rfl, hform, hwrites⟩ := h
  have hshort : (literal ++ rest).head? ≠ some .path := by
    cases hwrites with
    | flag => exact hrest
    | text s spelling => simp
    | bool b => simp
  rw [List.cons_append, readMarkers, readName_word name hshort]
  simp only [bind, Except.bind, Option.bind_some, hform, hwrites.read]
  split
  · rfl
  · rfl
  · rfl
  · next hnil hcomma hmore => split <;> simp_all

/-- What a marker of a vocabulary consists of has no brackets and no commas. -/
theorem Means.balanced {marker : Marker} (h : Means vocabulary marker meaning) :
    Token.balanced [] marker = true := by
  obtain ⟨name, form, literal, rfl, -, hwrites⟩ := h
  cases hwrites <;> rfl

theorem Means.comma_not_mem {marker : Marker} (h : Means vocabulary marker meaning) :
    Token.mark ',' ∉ marker := by
  obtain ⟨name, form, literal, rfl, -, hwrites⟩ := h
  cases hwrites <;> simp

/-- A marker that is read is the whole one up to the next comma. -/
theorem Marker.Undivided.eq_of_append {marker other : Marker} {tail rest : List Token}
    (h : marker.Undivided) (hother : Means vocabulary other meaning)
    (htail : ∀ token ∈ tail.head?, token = .mark ',')
    (hrest : ∀ token ∈ rest.head?, token = .mark ',')
    (heq : marker ++ tail = other ++ rest) : other = marker ∧ rest = tail := by
  rcases List.append_eq_append_iff.mp heq with ⟨more, rfl, hmore⟩ | ⟨more, rfl, hmore⟩
  · cases more with
    | nil => exact ⟨List.append_nil _, by simpa using hmore.symm⟩
    | cons token more =>
        -- the marker that is read would go on behind the comma
        obtain rfl := htail token (by rw [hmore]; rfl)
        exact absurd (by simp) hother.comma_not_mem
  · cases more with
    | nil => exact ⟨(List.append_nil _).symm, by simpa using hmore⟩
    | cons token more =>
        -- there would be a comma outside of all brackets of the marker
        obtain rfl := hrest token (by rw [hmore]; rfl)
        exact absurd (hother.balanced.symm.trans (h.comma rfl)) (by simp)

/-- What is read first is the marker up to the next comma. -/
theorem Marker.Undivided.exists_of_readMarkers {marker : Marker} {tail : List Token}
    (h : marker.Undivided) (htail : ∀ token ∈ tail.head?, token = .mark ',')
    (hread : readMarkers vocabulary unsupported (marker ++ tail) = .ok meanings) :
    ∃ meaning, Means vocabulary marker meaning ∧
      ((tail = [] ∨ tail = [.mark ',']) ∧ meanings = [meaning] ∨
        ∃ next others later, tail = .mark ',' :: next :: others ∧
          readMarkers vocabulary unsupported (next :: others) = .ok later ∧
          meanings = meaning :: later) := by
  obtain ⟨other, rest, meaning, heq, hmeans, hrest⟩ := Declaration.exists_of_readMarkers hread
  have hcomma : ∀ token ∈ rest.head?, token = .mark ',' := by
    rcases hrest with ⟨rfl | rfl, -⟩ | ⟨next, others, later, rfl, -⟩ <;> simp
  obtain ⟨rfl, rfl⟩ := h.eq_of_append hmeans htail hcomma heq
  exact ⟨meaning, hmeans, hrest⟩

/-- The last marker is read if it means something. -/
theorem readMarkers_last_iff {marker : Marker} (h : marker.Undivided) {trailing : List Token}
    (htrailing : trailing = [] ∨ trailing = [.mark ',']) :
    readMarkers vocabulary unsupported (marker ++ trailing) = .ok meanings ↔
      ∃ meaning, Means vocabulary marker meaning ∧ meanings = [meaning] := by
  constructor
  · intro hread
    obtain ⟨meaning, hmeans, ⟨-, hmeanings⟩ | ⟨next, others, later, hmore, -⟩⟩ :=
      h.exists_of_readMarkers (by rcases htrailing with rfl | rfl <;> simp) hread
    · exact ⟨meaning, hmeans, hmeanings⟩
    · rcases htrailing with rfl | rfl <;> cases hmore
  · rintro ⟨meaning, hmeans, rfl⟩
    rcases htrailing with rfl | rfl <;> exact readMarkers_append hmeans _ (by simp)

/-- A marker before another one is read if both are. -/
theorem readMarkers_comma_iff {marker : Marker} (h : marker.Undivided) {others : List Token}
    (hne : others ≠ []) :
    readMarkers vocabulary unsupported (marker ++ .mark ',' :: others) = .ok meanings ↔
      ∃ meaning later, Means vocabulary marker meaning ∧
        readMarkers vocabulary unsupported others = .ok later ∧ meanings = meaning :: later := by
  obtain ⟨next, others, rfl⟩ := List.exists_cons_of_ne_nil hne
  constructor
  · intro hread
    obtain ⟨meaning, hmeans, ⟨hlast, -⟩ | ⟨_, _, later, hmore, hlater, hmeanings⟩⟩ :=
      h.exists_of_readMarkers (by simp) hread
    · rcases hlast with hlast | hlast <;> cases hlast
    · cases hmore
      exact ⟨meaning, later, hmeans, hlater, hmeanings⟩
  · rintro ⟨meaning, later, hmeans, hlater, rfl⟩
    refine (readMarkers_append hmeans (.mark ',' :: next :: others) (by simp)).trans ?_
    exact congrArg ((meaning :: ·) <$> ·) hlater

theorem intercalate_ne_nil {markers : List Marker} (hne : markers ≠ [])
    (h : ∀ marker ∈ markers, marker.Undivided) : [Token.mark ','].intercalate markers ≠ [] := by
  obtain ⟨marker, markers, rfl⟩ := List.exists_cons_of_ne_nil hne
  have hmarker := (h marker List.mem_cons_self).ne_nil
  cases markers with
  | nil => rwa [List.intercalate_singleton]
  | cons next markers => simp [List.intercalate_cons_cons]

/-- **A list of markers is read if each of them means something.** -/
theorem readMarkers_eq_ok_iff {markers : List Marker} (hne : markers ≠ [])
    (h : ∀ marker ∈ markers, marker.Undivided) {trailing : List Token}
    (htrailing : trailing = [] ∨ trailing = [.mark ',']) :
    readMarkers vocabulary unsupported ([.mark ','].intercalate markers ++ trailing) =
      .ok meanings ↔ List.Forall₂ (Means vocabulary) markers meanings := by
  induction markers generalizing meanings with
  | nil => exact absurd rfl hne
  | cons marker markers ih =>
      have hmarker := h marker List.mem_cons_self
      cases markers with
      | nil =>
          rw [List.intercalate_singleton, readMarkers_last_iff hmarker htrailing,
            List.forall₂_cons_left_iff]
          simp only [List.forall₂_nil_left_iff]
          refine exists_congr fun meaning => ⟨fun ⟨hmeans, h⟩ => ⟨[], hmeans, rfl, h⟩, ?_⟩
          rintro ⟨_, hmeans, rfl, h⟩
          exact ⟨hmeans, h⟩
      | cons next markers =>
          have hmore : ∀ other ∈ next :: markers, other.Undivided := fun other hother =>
            h other (List.mem_cons_of_mem _ hother)
          have hothers : [Token.mark ','].intercalate (next :: markers) ++ trailing ≠ [] :=
            List.append_ne_nil_of_left_ne_nil (intercalate_ne_nil (by simp) hmore) _
          rw [List.intercalate_cons_cons, List.append_assoc, List.append_assoc,
            List.singleton_append, readMarkers_comma_iff hmarker hothers,
            List.forall₂_cons_left_iff]
          simp only [ih (by simp) hmore]

end ReadMarkers

/-! ### Attributes -/

/-- What belongs to two lists, one behind the other, is in two parts. -/
theorem forall₂_append_left_iff {α β : Type} {R : α → β → Prop} {as as' : List α} {bs : List β} :
    List.Forall₂ R (as ++ as') bs ↔
      ∃ cs cs', List.Forall₂ R as cs ∧ List.Forall₂ R as' cs' ∧ bs = cs ++ cs' := by
  induction as generalizing bs with
  | nil => simp
  | cons a as ih =>
      rw [List.cons_append, List.forall₂_cons_left_iff]
      simp only [ih, List.forall₂_cons_left_iff]
      constructor
      · rintro ⟨b, _, hb, ⟨cs, cs', hcs, hcs', rfl⟩, rfl⟩
        exact ⟨b :: cs, cs', ⟨b, cs, hb, hcs, rfl⟩, hcs', rfl⟩
      · rintro ⟨_, cs', ⟨b, cs, hb, hcs, rfl⟩, hcs', rfl⟩
        exact ⟨b, cs ++ cs', hb, ⟨cs, cs', hcs, hcs', rfl⟩, rfl⟩

section Attributes

variable {α : Type} {vocabulary : String → Option (Form α)} {unsupported : Fault}
  {meanings : List α}

theorem balanced_intercalate {markers : List Marker}
    (h : ∀ marker ∈ markers, Token.balanced [] marker = true) :
    Token.balanced [] ([.mark ','].intercalate markers) = true := by
  induction markers with
  | nil => rfl
  | cons marker markers ih =>
      have hmarker := h marker List.mem_cons_self
      cases markers with
      | nil => rwa [List.intercalate_singleton]
      | cons next markers =>
          rw [List.intercalate_cons_cons, List.append_assoc]
          refine (balanced_append hmarker [] _).trans ?_
          exact ih fun other hother => h other (List.mem_cons_of_mem _ hother)

theorem arguments?_of_closing? {opening closing : Char} (h : Token.closing? opening = some closing)
    (rest : List Token) : arguments? (.word "entity" :: .mark opening :: rest) =
      .ok (some (untilClosed 0 rest)) := by
  unfold Token.closing? at h
  split at h <;> cases h <;> rfl

/-- What is not for entities has no arguments. -/
theorem arguments?_of_foreign {tokens : List Token}
    (h : ∀ rest, tokens = .word "entity" :: rest → rest.head? = some .path) :
    arguments? tokens = .ok none := by
  unfold arguments?
  split
  · cases h _ rfl
  · cases h _ rfl
  · cases h _ rfl
  · rfl

/-- **An attribute is read if each marker that it lists means something.** -/
theorem readAttribute_eq_ok_iff {tokens : List Token} {markers : List Marker}
    (h : Lists tokens markers) :
    readAttribute vocabulary unsupported tokens = .ok meanings ↔
      List.Forall₂ (Means vocabulary) markers meanings := by
  cases h with
  | @list opening closing _ trailing hclosing hmarkers htrailing =>
      have hbody : untilClosed 0 ([.mark ','].intercalate markers ++ trailing ++ [.mark closing]) =
          [.mark ','].intercalate markers ++ trailing := by
        show untilClosed ([] : List Char).length _ = _
        refine untilClosed_of_balanced ?_ (mem_closings_of_closing? hclosing) []
        have hbalanced := balanced_intercalate fun marker hmarker =>
          (hmarkers marker hmarker).balanced
        refine (balanced_append hbalanced [] trailing).trans ?_
        rcases htrailing with rfl | ⟨-, rfl⟩ <;> rfl
      rw [readAttribute, arguments?_of_closing? hclosing, hbody]
      by_cases hnil : markers = []
      · subst hnil
        obtain rfl : trailing = [] := htrailing.resolve_right fun h => h.1 rfl
        rw [List.forall₂_nil_left_iff]
        exact ⟨fun h => (Except.ok.inj h).symm, fun h => congrArg Except.ok h.symm⟩
      · have hread : readMarkers vocabulary unsupported
            ([.mark ','].intercalate markers ++ trailing) = .ok meanings ↔ _ :=
          readMarkers_eq_ok_iff hnil hmarkers (htrailing.imp_right And.right)
        obtain ⟨first, rest, hfirst⟩ := List.exists_cons_of_ne_nil
          (List.append_ne_nil_of_left_ne_nil (intercalate_ne_nil hnil hmarkers) trailing)
        rw [hfirst] at hread ⊢
        exact hread
  | foreign h =>
      rw [readAttribute, arguments?_of_foreign h, List.forall₂_nil_left_iff]
      exact ⟨fun h => (Except.ok.inj h).symm, fun h => congrArg Except.ok h.symm⟩

/-- **Attributes are read if each marker that they list means something**, in whatever attribute
it stands. -/
theorem mapM_readAttribute_eq_ok_iff {attributes : List (List Token)} {markers : List Marker}
    (h : ListAll attributes markers) :
    (∃ groups, attributes.mapM (readAttribute vocabulary unsupported) = .ok groups ∧
        groups.flatten = meanings) ↔
      List.Forall₂ (Means vocabulary) markers meanings := by
  induction h generalizing meanings with
  | nil =>
      rw [List.forall₂_nil_left_iff]
      constructor
      · rintro ⟨groups, hgroups, rfl⟩
        obtain rfl := Except.ok.inj hgroups
        rfl
      · rintro rfl
        exact ⟨[], rfl, rfl⟩
  | @cons tokens attributes markers others h _ ih =>
      have hread (first : List α) : readAttribute vocabulary unsupported tokens = .ok first ↔
          List.Forall₂ (Means vocabulary) markers first := readAttribute_eq_ok_iff h
      rw [forall₂_append_left_iff]
      simp only [← hread, ← ih]
      constructor
      · rintro ⟨groups, hgroups, rfl⟩
        rw [List.mapM_cons] at hgroups
        obtain ⟨first, hfirst, hgroups⟩ := exists_of_bind_eq_ok hgroups
        obtain ⟨rest, hrest, hgroups⟩ := exists_of_bind_eq_ok hgroups
        obtain rfl := Except.ok.inj hgroups
        exact ⟨first, rest.flatten, hfirst, ⟨rest, hrest, rfl⟩, rfl⟩
      · rintro ⟨first, _, hfirst, ⟨rest, hrest, rfl⟩, rfl⟩
        refine ⟨first :: rest, ?_, rfl⟩
        rw [List.mapM_cons, hfirst, hrest]
        rfl

end Attributes

end RowMapper.Declaration
