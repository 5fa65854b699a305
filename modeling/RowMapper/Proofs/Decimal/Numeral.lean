import Mathlib.Data.Nat.Digits.Defs
import RowMapper.Decimal.Numeral

/-!
# Numerals in a text

* `value_padded`, `length_padded` — a numeral filled with zeros keeps its number and has its width;
* `head?_digits_ne` — a numeral starts with a zero only if it is that of zero;
* `value_lt`, `ten_pow_length_le` — a number and the length of its numeral;
* `EndsDigits`, `takeWhile_append_of_endsDigits` — a numeral ends where a text does not go on with
  a digit.
-/

namespace RowMapper

namespace Decimal

theorem powerOfTen_eq (n : Nat) : powerOfTen n = 10 ^ n := rfl

theorem powerOfTen_le {m n : Nat} (h : m ≤ n) : powerOfTen m ≤ 10 ^ n :=
  Nat.pow_le_pow_right (by decide) h

theorem value_append (as bs : List Char) :
    value (as ++ bs) = Nat.ofDigitChars 10 bs (value as) := by
  rw [value, Nat.ofDigitChars_append]
  rfl

/-- Digits on top of a number take it less far than the next number with zeros behind it. -/
theorem ofDigitChars_lt {ds : List Char} (hds : ∀ c ∈ ds, c.isDigit = true) (acc : Nat) :
    Nat.ofDigitChars 10 ds acc < (acc + 1) * 10 ^ ds.length := by
  induction ds generalizing acc with
  | nil => simp [Nat.ofDigitChars_nil]
  | cons c ds ih =>
      have hdigit : c.toNat - '0'.toNat ≤ 9 := by
        have hle : c.toNat ≤ 57 := (Char.isDigit_iff_toNat.mp (hds c List.mem_cons_self)).2
        have hzero : '0'.toNat = 48 := rfl
        omega
      rw [Nat.ofDigitChars_cons, List.length_cons, Nat.pow_succ, Nat.mul_comm _ 10, ← Nat.mul_assoc]
      refine (ih (fun d hd => hds d (List.mem_cons_of_mem c hd)) _).trans_le ?_
      exact Nat.mul_le_mul_right _ (by omega)

/-- A number is less than the power of ten that its digits have no room for. -/
theorem value_lt {ds : List Char} (hds : ∀ c ∈ ds, c.isDigit = true) :
    value ds < 10 ^ ds.length := by
  have hlt := ofDigitChars_lt hds 0
  rwa [Nat.zero_add, Nat.one_mul] at hlt

/-- The power of ten of the first digit of a positive number is not above the number. -/
theorem ten_pow_length_le {n : Nat} (hn : n ≠ 0) : 10 ^ ((digits n).length - 1) ≤ n := by
  by_contra hlt
  rcases Nat.eq_zero_or_pos ((digits n).length - 1) with hzero | hpos
  · rw [hzero] at hlt
    omega
  · have hle := (Nat.length_toDigits_le_iff (by decide) hpos).mpr (Nat.not_le.mp hlt)
    change (digits n).length ≤ (digits n).length - 1 at hle
    omega

/-- Zeros in front of a numeral do not change its number. -/
theorem value_padded (width n : Nat) : value (padded width n) = n := by
  rw [padded, value_append, value, Nat.ofDigitChars_replicate_zero]
  exact value_digits n

/-- A number that is not too large has a numeral of the width. -/
theorem length_padded {width n : Nat} (hwidth : 0 < width) (hn : n < 10 ^ width) :
    (padded width n).length = width := by
  have hlength : (digits n).length ≤ width := Nat.toDigits_length 10 n width hwidth hn
  rw [padded, List.length_append, List.length_replicate]
  omega

theorem isDigit_of_mem_padded {width n : Nat} {c : Char} (h : c ∈ padded width n) :
    c.isDigit = true := by
  rcases List.mem_append.mp h with h | h
  · rw [List.eq_of_mem_replicate h]
    rfl
  · exact isDigit_of_mem_digits h

theorem padded_ne_nil (width n : Nat) : padded width n ≠ [] := by
  intro h
  exact digits_ne_nil n (List.append_eq_nil_iff.mp h).2

/-- The first digit of a positive number is no zero. -/
theorem head?_digits_ne {n : Nat} (hn : n ≠ 0) : (digits n).head? ≠ some '0' := by
  induction n using Nat.strongRecOn with
  | ind n ih =>
      by_cases hlt : n < 10
      · have hchar : ∀ m : Fin 10, m.val.digitChar = '0' → m.val = 0 := by decide
        rw [digits, Nat.toDigits_of_lt_base hlt]
        intro h
        exact hn (hchar ⟨n, hlt⟩ (Option.some.inj h))
      · have hstep : digits n = digits (n / 10) ++ [(n % 10).digitChar] :=
          Nat.toDigits_of_base_le (by decide) (by omega)
        obtain ⟨c, tail, hc⟩ := List.exists_cons_of_ne_nil (digits_ne_nil (n / 10))
        have hrest := ih (n / 10) (by omega) (by omega)
        rw [hc] at hrest
        rw [hstep, hc]
        exact hrest

/-- A text that does not go on with a digit. -/
def EndsDigits (rest : List Char) : Prop := ∀ c ∈ rest.head?, c.isDigit = false

theorem endsDigits_nil : EndsDigits [] := fun _ hc => by cases hc

theorem endsDigits_cons {c : Char} (hc : c.isDigit = false) (rest : List Char) :
    EndsDigits (c :: rest) := by
  intro d hd
  obtain rfl := Option.some.inj hd
  exact hc

theorem takeWhile_append_of_endsDigits {ds rest : List Char} (hds : ∀ c ∈ ds, c.isDigit = true)
    (hrest : EndsDigits rest) :
    (ds ++ rest).takeWhile Char.isDigit = ds ∧ (ds ++ rest).dropWhile Char.isDigit = rest := by
  rw [List.takeWhile_append_of_pos hds, List.dropWhile_append_of_pos hds]
  cases rest with
  | nil => simp
  | cons c tail => simp [hrest c rfl]

end Decimal

end RowMapper
