import RowMapper.Json.Numeral
import RowMapper.Proofs.Decimal.Numeral

/-!
# Numerals and their texts

* `Numeral.text`, `Numeral.WellFormed` — the text of a numeral, and the numerals that have one;
* `EndsNumeral` — what may follow a numeral without becoming a part of it;
* `Numeral.scan_text` — a numeral is cut off a text as it was written;
* `Numeral.extend_spec` — the leading digits that are kept, and those that are left over.
-/

namespace RowMapper

/-- A text that does not go on with a numeral. -/
def EndsNumeral (rest : List Char) : Prop :=
  ∀ c ∈ rest.head?, c.isDigit = false ∧ c ≠ '.' ∧ c ≠ 'e' ∧ c ≠ 'E'

theorem EndsNumeral.endsDigits {rest : List Char} (h : EndsNumeral rest) :
    Decimal.EndsDigits rest := fun c hc => (h c hc).1

namespace Numeral

/-- The text of a fraction, with its point. -/
def fractionText (ds : List Char) : List Char := if ds = [] then [] else '.' :: ds

/-- The text of an exponent, which always has a sign. -/
def exponentText : Option (Bool × List Char) → List Char
  | none => []
  | some (negative, ds) => 'e' :: (if negative then '-' else '+') :: ds

/-- The text of a numeral. -/
def text (n : Numeral) : List Char :=
  (if n.negative then ['-'] else []) ++ n.whole ++ fractionText n.fraction ++
    exponentText n.exponent

/-- The parts of a numeral are digits where there have to be some, and no zero stands in front. -/
structure WellFormed (n : Numeral) : Prop where
  whole_ne_nil : n.whole ≠ []
  isDigit_whole : ∀ c ∈ n.whole, c.isDigit = true
  leading : n.whole = ['0'] ∨ n.whole.head? ≠ some '0'
  isDigit_fraction : ∀ c ∈ n.fraction, c.isDigit = true
  exponent : ∀ negative ds, n.exponent = some (negative, ds) →
    ds ≠ [] ∧ ∀ c ∈ ds, c.isDigit = true

variable {n : Numeral} {rest : List Char}

/-! ### Cutting a numeral off -/

theorem scanExponent_text (hn : n.WellFormed) (hrest : EndsNumeral rest) :
    scanExponent (exponentText n.exponent ++ rest) = some (n.exponent, rest) := by
  cases hexponent : n.exponent with
  | none =>
      change scanExponent rest = some (none, rest)
      unfold scanExponent
      split
      · exact absurd rfl (hrest _ rfl).2.2.1
      · exact absurd rfl (hrest _ rfl).2.2.2
      · rfl
  | some e =>
      obtain ⟨negative, ds⟩ := e
      obtain ⟨hne, hdigits⟩ := hn.exponent negative ds hexponent
      obtain ⟨htake, hdrop⟩ := Decimal.takeWhile_append_of_endsDigits hdigits hrest.endsDigits
      have hpower : scanPower ((if negative then '-' else '+') :: ds ++ rest) =
          some (some (negative, ds), rest) := by
        cases negative <;>
          simp only [scanPower, List.cons_append, Bool.false_eq_true, if_false, if_true, htake,
            hdrop]
      exact hpower

theorem scanFraction_text (hn : n.WellFormed) (hrest : EndsNumeral rest) :
    scanFraction (fractionText n.fraction ++ (exponentText n.exponent ++ rest)) =
      some (n.fraction, exponentText n.exponent ++ rest) := by
  -- neither the mark of an exponent nor the rest is a digit or a point
  have hends : ∀ c ∈ (exponentText n.exponent ++ rest).head?, c.isDigit = false ∧ c ≠ '.' := by
    intro c hc
    cases hexponent : n.exponent with
    | none =>
        rw [hexponent] at hc
        exact ⟨(hrest c hc).1, (hrest c hc).2.1⟩
    | some e =>
        rw [hexponent] at hc
        obtain rfl := Option.some.inj hc
        decide
  unfold fractionText
  split
  · rename_i hnil
    rw [hnil, List.nil_append]
    unfold scanFraction
    split
    · rename_i hcons
      exact absurd rfl (hends '.' (by rw [hcons]; rfl)).2
    · rfl
  · rename_i hne
    obtain ⟨htake, hdrop⟩ := Decimal.takeWhile_append_of_endsDigits hn.isDigit_fraction
      fun c hc => (hends c hc).1
    simp only [scanFraction, List.cons_append, htake, hdrop]

theorem scanWhole_text (hn : n.WellFormed) (hrest : Decimal.EndsDigits rest) :
    scanWhole (n.whole ++ rest) = some (n.whole, rest) := by
  obtain ⟨htake, hdrop⟩ := Decimal.takeWhile_append_of_endsDigits hn.isDigit_whole hrest
  simp only [scanWhole, htake, hdrop]
  split
  · rename_i hnil
    exact absurd hnil hn.whole_ne_nil
  · rename_i hzero
    rcases hn.leading with hone | hhead
    · rw [hzero] at hone
      cases hone
    · exact absurd (by rw [hzero]; rfl) hhead
  · rfl

/-- What follows the digits in front of the point is no digit. -/
theorem endsDigits_text (n : Numeral) (hrest : EndsNumeral rest) :
    Decimal.EndsDigits (fractionText n.fraction ++ (exponentText n.exponent ++ rest)) := by
  unfold fractionText
  split
  · cases n.exponent with
    | none => exact hrest.endsDigits
    | some e => exact Decimal.endsDigits_cons (by decide) _
  · exact Decimal.endsDigits_cons (by decide) _

/-- A well-formed numeral starts with a sign or a digit. -/
theorem exists_cons_text (hn : n.WellFormed) :
    ∃ c tail, n.text = c :: tail ∧ (c = '-' ∨ c.isDigit = true) := by
  obtain ⟨c, tail, hc⟩ := List.exists_cons_of_ne_nil hn.whole_ne_nil
  have hdigit : c.isDigit = true := hn.isDigit_whole c (by rw [hc]; exact List.mem_cons_self)
  cases hnegative : n.negative with
  | true =>
      refine ⟨'-', n.whole ++ fractionText n.fraction ++ exponentText n.exponent, ?_, .inl rfl⟩
      rw [text, hnegative]
      simp
  | false =>
      refine ⟨c, tail ++ fractionText n.fraction ++ exponentText n.exponent, ?_, .inr hdigit⟩
      rw [text, hnegative, hc]
      simp

/-- **A numeral is cut off a text as it was written.** -/
theorem scan_text (hn : n.WellFormed) (hrest : EndsNumeral rest) :
    scan (n.text ++ rest) = some (n, rest) := by
  have htail :
      scanWhole (n.whole ++ (fractionText n.fraction ++ (exponentText n.exponent ++ rest))) =
      some (n.whole, fractionText n.fraction ++ (exponentText n.exponent ++ rest)) :=
    scanWhole_text hn (endsDigits_text n hrest)
  cases hnegative : n.negative with
  | true =>
      have htext : n.text ++ rest = '-' ::
          (n.whole ++ (fractionText n.fraction ++ (exponentText n.exponent ++ rest))) := by
        rw [text, hnegative]
        simp
      rw [htext, scan]
      simp only [htail, scanFraction_text hn hrest, scanExponent_text hn hrest,
        Option.bind_eq_bind, Option.bind_some, ← hnegative]
      rfl
  | false =>
      have htext : n.text ++ rest =
          n.whole ++ (fractionText n.fraction ++ (exponentText n.exponent ++ rest)) := by
        rw [text, hnegative]
        simp
      have hsign : ∀ r, n.whole ++ (fractionText n.fraction ++ (exponentText n.exponent ++ rest)) ≠
          '-' :: r := by
        intro r h
        obtain ⟨c, tail, hc⟩ := List.exists_cons_of_ne_nil hn.whole_ne_nil
        rw [hc, List.cons_append] at h
        have hdigit := hn.isDigit_whole c (by rw [hc]; exact List.mem_cons_self)
        rw [(List.cons.inj h).1] at hdigit
        cases hdigit
      rw [htext, scan]
      · simp only [htail, scanFraction_text hn hrest, scanExponent_text hn hrest,
          Option.bind_eq_bind, Option.bind_some, ← hnegative]
        rfl
      · exact hsign

/-! ### Digits that fit -/

/-- Digits are kept up to the limit, and what they stand for is no more than the number of all. -/
theorem extend_spec {limit acc : Nat} (hacc : acc ≤ limit) (ds : List Char) :
    (extend limit acc ds).1 ≤ limit ∧ (extend limit acc ds).2.length ≤ ds.length ∧
      (extend limit acc ds).1 * 10 ^ (extend limit acc ds).2.length ≤
        Nat.ofDigitChars 10 ds acc := by
  induction ds generalizing acc with
  | nil =>
      rw [extend, Nat.ofDigitChars_nil]
      exact ⟨hacc, le_rfl, by simp⟩
  | cons c ds ih =>
      have hnext : acc * 10 + Decimal.digitValue c = 10 * acc + (c.toNat - '0'.toNat) := by
        rw [Decimal.digitValue, Nat.mul_comm]
      simp only [extend, hnext]
      split
      · rename_i hle
        obtain ⟨hlimit, hlength, hvalue⟩ := ih hle
        rw [Nat.ofDigitChars_cons]
        exact ⟨hlimit, hlength.trans (Nat.le_succ _), hvalue⟩
      · refine ⟨hacc, le_rfl, ?_⟩
        rw [Nat.ofDigitChars_eq_ofDigitChars_zero, Nat.mul_comm]
        exact Nat.le_add_right _ _

/-- Digits are appended one by one while the number stays within the limit. -/
theorem extend_of_le {limit : Nat} (ds : List Char) (acc : Nat)
    (h : Nat.ofDigitChars 10 ds acc ≤ limit) :
    extend limit acc ds = (Nat.ofDigitChars 10 ds acc, []) := by
  induction ds generalizing acc with
  | nil => simp [extend, Nat.ofDigitChars_nil]
  | cons c ds ih =>
      have hnext : acc * 10 + Decimal.digitValue c = 10 * acc + (c.toNat - '0'.toNat) := by
        rw [Decimal.digitValue, Nat.mul_comm]
      rw [Nat.ofDigitChars_cons] at h ⊢
      have hle : 10 * acc + (c.toNat - '0'.toNat) ≤ limit := by
        rw [Nat.ofDigitChars_eq_ofDigitChars_zero] at h
        have hpos : 1 ≤ 10 ^ ds.length := Nat.one_le_pow _ _ (by decide)
        have := Nat.mul_le_mul_right (10 * acc + (c.toNat - '0'.toNat)) hpos
        omega
      simp only [extend, hnext, if_pos hle]
      exact ih _ h

end Numeral

end RowMapper
