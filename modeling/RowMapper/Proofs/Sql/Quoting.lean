import Mathlib.Algebra.Ring.Parity
import RowMapper.Proofs.Sql.Lexeme

/-!
# Quoting is reversible

What is written between quotes is read back as it is, and the reader stops where the writer did.

* `QuoteMarks.scan?` — a quoted text read from its opening mark: the content, and what follows;
* `scan?_enclose_iff` — for any two marks, a quoted text is read back together with what follows it,
  exactly if that does not start with the closing mark;
* `Doubled.Paired` — the texts in which every run of a mark can be split into pairs;
* `encode_decode_iff` — these are the texts that come back when their marks are undoubled and
  doubled again;
* `quoting_reversible` — names and literals, in both directions.

### What is load-bearing

Only the closing mark is doubled.  The opening mark means nothing inside a text, so the two may
differ, and the argument never asks whether they do.

Undoubling takes pairs from the left.  A run of odd length leaves a single mark, and doubling that
mark makes the run longer by one; nothing outside the run can make up for it, because a run that
cannot be extended has other characters on both sides.
-/

namespace RowMapper

/-! ### Runs of a mark -/

namespace Doubled

/-- Every run of the mark that cannot be extended has an even length. -/
def Paired (mark : Char) (s : List Char) : Prop :=
  ∀ before n after, s = before ++ List.replicate n mark ++ after →
    before.getLast? ≠ some mark → after.head? ≠ some mark → Even n

variable {mark c d : Char} {s : List Char}

theorem paired_nil : Paired mark [] := by
  intro before n after hs _ _
  have hempty : before = [] ∧ n = 0 ∧ after = [] := by simpa using hs.symm
  simp [hempty.2.1]

/-- A run that stands in front and is cut off by another character is a run of the text. -/
theorem Paired.even {n : Nat} (h : Paired mark (List.replicate n mark ++ s))
    (hs : s.head? ≠ some mark) : Even n :=
  h [] n s rfl (by simp) hs

theorem not_paired_of_single (hs : s.head? ≠ some mark) : ¬ Paired mark (mark :: s) := by
  intro h
  have hrun : Paired mark (List.replicate 1 mark ++ s) := h
  exact absurd (hrun.even hs) (by decide)

theorem paired_cons_iff_of_ne (hc : c ≠ mark) : Paired mark (c :: s) ↔ Paired mark s := by
  constructor
  · intro h before n after hs hbefore hafter
    refine h (c :: before) n after (by simp [hs]) ?_ hafter
    cases before with
    | nil => simpa using hc
    | cons d before => simpa using hbefore
  · intro h before n after hs hbefore hafter
    match before, n with
    | [], 0 => simp
    | [], n + 1 => simp [List.replicate_succ, hc] at hs
    | d :: before, n =>
        simp only [List.cons_append, List.cons.injEq] at hs
        refine h before n after hs.2 ?_ hafter
        cases before with
        | nil => simp
        | cons e before => simpa using hbefore

theorem paired_pair_iff : Paired mark (mark :: mark :: s) ↔ Paired mark s := by
  constructor
  · intro h before n after hs hbefore hafter
    cases before with
    | nil =>
        have hrun : Paired mark (List.replicate (n + 2) mark ++ after) := by
          simpa [hs, List.replicate_succ] using h
        have heven : Even (n + 2) := hrun.even hafter
        simpa [Nat.even_add] using heven
    | cons d before =>
        refine h (mark :: mark :: d :: before) n after (by simp [hs]) ?_ hafter
        simpa using hbefore
  · intro h before n after hs hbefore hafter
    match before, n with
    | [], 0 => simp
    | [], 1 =>
        obtain rfl : mark :: s = after := by simpa using hs
        exact absurd rfl hafter
    | [], n + 2 =>
        obtain rfl : s = List.replicate n mark ++ after := by
          simpa [List.replicate_succ] using hs
        have heven : Even n := h.even hafter
        simpa [Nat.even_add] using heven
    | [d], n => simp [← (List.cons.inj hs).1] at hbefore
    | d :: e :: before, n =>
        simp only [List.cons_append, List.cons.injEq] at hs
        refine h before n after hs.2.2 ?_ hafter
        cases before with
        | nil => simp
        | cons _ before => simpa using hbefore

/-- Exactly the texts in which marks stand in pairs come back when they are undoubled and doubled
again. -/
theorem encode_decode_iff (mark : Char) (s : List Char) :
    encode mark (decode mark s) = s ↔ Paired mark s := by
  fun_induction decode mark s with
  | case1 c d rest h ih =>
      obtain ⟨rfl, rfl⟩ := h
      rw [paired_pair_iff, ← ih]
      simp [encode]
  | case2 c d rest h ih =>
      by_cases hc : c = mark
      · obtain rfl := hc
        have hd : d ≠ c := fun hd => h ⟨rfl, hd⟩
        have hsingle : ¬ Paired c (c :: d :: rest) := not_paired_of_single (by simpa using hd)
        simpa [encode, hd.symm] using hsingle
      · rw [paired_cons_iff_of_ne hc, ← ih]
        simp [encode, hc]
  | case3 s h =>
      rcases s with _ | ⟨c, _ | ⟨d, rest⟩⟩
      · simpa [encode] using paired_nil
      · by_cases hc : c = mark
        · obtain rfl := hc
          have hsingle : ¬ Paired c [c] := not_paired_of_single (by simp)
          simpa [encode] using hsingle
        · rw [paired_cons_iff_of_ne hc]
          simpa [encode, hc] using paired_nil
      · exact absurd rfl (h c d rest)

end Doubled

/-! ### Scanning a quoted text -/

namespace Sql

/-- The content of the quoted text at the start of a text, and what follows it; `none` if the text
does not start with the opening mark, or has no end. -/
def QuoteMarks.scan? (marks : QuoteMarks) : List Char → Option (List Char × List Char)
  | [] => none
  | c :: rest => if c = marks.left then readQuoted marks.right rest else none

/-- Nothing is read back if what follows goes on with the closing mark: the two marks in a row are
taken for one character of the content. -/
theorem readQuoted_encode_ne {mark : Char} (s : List Char) {rest : List Char}
    (hrest : rest.head? = some mark) :
    readQuoted mark (Doubled.encode mark s ++ mark :: rest) ≠ some (s, rest) := by
  obtain ⟨tail, rfl⟩ : ∃ tail, rest = mark :: tail := by
    cases rest with
    | nil => cases hrest
    | cons c tail => exact ⟨tail, by rw [Option.some.inj hrest]⟩
  rw [readQuoted_encode_append]
  intro h
  simp only [readQuoted, if_true, Option.map_map, Option.map_eq_some_iff, Function.comp_def] at h
  obtain ⟨⟨t, after⟩, -, hcontent⟩ := h
  simp at hcontent

/-- A quoted text is read back, and the reader stops at its end, if and only if what follows it does
not start with the closing mark. -/
theorem scan?_enclose_iff (marks : QuoteMarks) (s rest : List Char) :
    marks.scan? (marks.enclose s ++ rest) = some (s, rest) ↔ rest.head? ≠ some marks.right := by
  have hscan : marks.scan? (marks.enclose s ++ rest) =
      readQuoted marks.right (Doubled.encode marks.right s ++ marks.right :: rest) := by
    simp [QuoteMarks.scan?, QuoteMarks.enclose]
  rw [hscan]
  constructor
  · exact fun h hrest => readQuoted_encode_ne s hrest h
  · exact readQuoted_encode s

/-- **Quoting is reversible, and nothing breaks out of it.**  A quoted name (`Ident.write`) is
scanned by `QuoteMarks.scan?` as itself, whatever its characters, the two marks and the text behind
it are, exactly if that text does not start with the closing mark; the same holds of a literal
(`writeLiteral`).  Doubled quotes are undoubled to what they were, and undoubled quotes are doubled
to what they were exactly if they stand in pairs (`Doubled.Paired`). -/
theorem quoting_reversible :
    (∀ (marks : QuoteMarks) (name : String) (rest : List Char),
      marks.scan? ((Ident.quoted name).write marks ++ rest) = some (name.toList, rest) ↔
        rest.head? ≠ some marks.right) ∧
    (∀ s rest, QuoteMarks.scan? ⟨'\'', '\''⟩ (writeLiteral s ++ rest) = some (s, rest) ↔
      rest.head? ≠ some '\'') ∧
    (∀ s, Doubled.decode '\'' (Doubled.encode '\'' s) = s) ∧
    ∀ s, Doubled.encode '\'' (Doubled.decode '\'' s) = s ↔ Doubled.Paired '\'' s := by
  refine ⟨?_, ?_, ?_, ?_⟩
  · intro marks name rest
    exact scan?_enclose_iff marks name.toList rest
  · intro s rest
    exact scan?_enclose_iff ⟨'\'', '\''⟩ s rest
  · exact Doubled.decode_encode '\''
  · exact Doubled.encode_decode_iff '\''

example : QuoteMarks.scan? ⟨'[', ']'⟩ "[a]][]]]]] b".toList =
    some ("a][]]".toList, " b".toList) := by decide

end Sql

end RowMapper
