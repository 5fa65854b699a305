import Mathlib.Tactic.NormNum
import RowMapper.Proofs.Decimal.Rounding
import RowMapper.Proofs.Json.Numeral

/-!
# Numerals that are not too large

A numeral stands for a number unless its magnitude is too large.  The reader rounds three times on
its way, and any of the three may reach infinity.

* `Numeral.size` — the rational number of the digits and the exponent;
* `Numeral.safe` — a bound below which three roundings stay below infinity;
* `exists_rounded` — a rounded natural number is larger than it was by a part in `2 ^ 53` at most;
* `exists_scaleTen` — significands and exponents within the bound are read;
* `exists_number?` — and so are numerals.
-/

namespace RowMapper

namespace Numeral

/-- The exponent that is written. -/
def power : Option (Bool × List Char) → Int
  | none => 0
  | some (true, ds) => -(Decimal.value ds)
  | some (false, ds) => Decimal.value ds

/-- The magnitude of a numeral. -/
def size (n : Numeral) : ℚ :=
  Decimal.value (n.whole ++ n.fraction) * 10 ^ (power n.exponent - n.fraction.length)

theorem cast_hidden : (BinaryFormat.double.hidden : ℚ) = 2 ^ 52 := by
  have hhidden : BinaryFormat.double.hidden = 2 ^ 52 := by decide
  rw [hhidden, Nat.cast_pow, Nat.cast_ofNat]

/-- Two and a half places less than the power of two at which double precision ends: room for two
relative errors before the last rounding. -/
def safe : ℚ :=
  (4 * BinaryFormat.double.hidden - 5) * 2 ^ (BinaryFormat.double.maxExponent - 1)

theorem safe_eq : safe = (((2 ^ 54 - 5) * 2 ^ 970 : Nat) : ℚ) := by
  have hexponent : BinaryFormat.double.maxExponent - 1 = (970 : Nat) := by decide
  have hfactor : (4 * 2 ^ 52 - 5 : ℚ) = (2 ^ 54 - 5 : Nat) := by norm_num
  rw [safe, hexponent, cast_hidden, hfactor, zpow_natCast, Nat.cast_mul, Nat.cast_pow 2 970,
    Nat.cast_ofNat]

theorem ten_pow_le_safe : ((10 ^ 308 : Nat) : ℚ) ≤ safe := by
  rw [safe_eq, Nat.cast_le]
  decide +kernel

theorem safe_lt_ten_pow : safe < ((10 ^ 309 : Nat) : ℚ) := by
  rw [safe_eq, Nat.cast_lt]
  decide +kernel

theorem safe_lt_limit : safe < BinaryFormat.double.limit := by
  rw [safe, BinaryFormat.limit_eq]
  gcongr
  norm_num

/-- Half a place above a number of double precision is within the bound, unless the number is one of
the two largest ones. -/
theorem add_half_mul_le_safe {significand : Nat} {exponent : Int}
    (hsignificand : significand < 2 ^ 53) (hexponent : exponent ≤ 971)
    (hlargest : exponent = 971 → significand ≤ 2 ^ 53 - 3) :
    ((significand : ℚ) + 1 / 2) * 2 ^ exponent ≤ safe := by
  have hmax : BinaryFormat.double.maxExponent = 971 := by decide
  rw [← hmax] at hexponent hlargest
  rw [safe, cast_hidden]
  generalize BinaryFormat.double.maxExponent = last at hexponent hlargest ⊢
  rcases eq_or_ne exponent last with heq | hne
  · have hle : (significand : ℚ) ≤ 2 ^ 53 - 3 := by
      have hcast : ((significand : Nat) : ℚ) ≤ ((2 ^ 53 - 3 : Nat) : ℚ) :=
        Nat.cast_le.mpr (hlargest heq)
      norm_num at hcast ⊢
      exact hcast
    have hunit : (0 : ℚ) < 2 ^ (last - 1) := by positivity
    rw [heq, ← sub_add_cancel last 1, zpow_add_one₀ two_ne_zero, sub_add_cancel, mul_left_comm,
      mul_comm]
    refine mul_le_mul_of_nonneg_right ?_ hunit.le
    linarith
  · have hle : (significand : ℚ) ≤ 2 ^ 53 := by exact_mod_cast hsignificand.le
    have hunit : (2 : ℚ) ^ exponent ≤ 2 ^ (last - 1) :=
      zpow_le_zpow_right₀ one_le_two (by omega)
    refine mul_le_mul (by linarith) hunit (by positivity) ?_
    norm_num

/-! ### Two rounded factors and their product -/

/-- Numbers within the powers of ten that are used are rounded to finite ones, and grow by a part in
`2 ^ 53` at most. -/
theorem exists_rounded {n : Nat} (hn : n ≤ 10 ^ 308) :
    ∃ m e, BinaryFormat.double.decode (BinaryFormat.double.round n 1) = .finite m e ∧
      (m : ℚ) * 2 ^ e ≤ n * (1 + 1 / 2 ^ 53) := by
  rcases Nat.eq_zero_or_pos n with rfl | hpos
  · refine ⟨0, -1074, by decide, ?_⟩
    norm_num
  have hlimit : (n : ℚ) / (1 : Nat) < BinaryFormat.double.limit := by
    rw [Nat.cast_one, div_one]
    exact ((Nat.cast_le.mpr hn).trans ten_pow_le_safe).trans_lt safe_lt_limit
  have hnormal : (2 : ℚ) ^ (BinaryFormat.double.minExponent + BinaryFormat.double.precision - 1) ≤
      n / (1 : Nat) := by
    have hone : (1 : ℚ) ≤ n := by exact_mod_cast hpos
    rw [Nat.cast_one, div_one]
    refine le_trans (zpow_le_one_of_nonpos₀ one_le_two ?_) hone
    decide
  obtain ⟨m, e, hdecode, hnear⟩ := BinaryFormat.exists_decode_round one_ne_zero (by decide) hnormal
    (BinaryFormat.round_lt_infinity one_ne_zero (by decide) (by decide) hlimit)
  refine ⟨m, e, hdecode, ?_⟩
  have hprecision : BinaryFormat.double.precision = 53 := rfl
  rw [hprecision, Nat.cast_one, div_one] at hnear
  have hup := (abs_le.mp hnear).2
  linarith

/-- Two factors and the errors of both: their product is not rounded to infinity. -/
theorem mul_lt_infinity {m n : Nat} {q r : Int} {x y : ℚ} (hx : 0 ≤ x)
    (hm : (m : ℚ) * 2 ^ q ≤ x * (1 + 1 / 2 ^ 53)) (hn : (n : ℚ) * 2 ^ r ≤ y * (1 + 1 / 2 ^ 53))
    (hsafe : x * y ≤ safe) :
    BinaryFormat.double.mul (.finite m q) (.finite n r) < BinaryFormat.double.infinity := by
  refine BinaryFormat.roundScaled_lt_infinity (by decide) (by decide) ?_
  have hproduct : ((m * n : Nat) : ℚ) * 2 ^ (q + r) ≤
      safe * ((1 + 1 / 2 ^ 53) * (1 + 1 / 2 ^ 53)) := by
    calc ((m * n : Nat) : ℚ) * 2 ^ (q + r) = (m * 2 ^ q) * (n * 2 ^ r) := by
          rw [zpow_add₀ two_ne_zero]
          push_cast
          ring
      _ ≤ (x * (1 + 1 / 2 ^ 53)) * (y * (1 + 1 / 2 ^ 53)) := by gcongr
      _ = x * y * ((1 + 1 / 2 ^ 53) * (1 + 1 / 2 ^ 53)) := by ring
      _ ≤ safe * ((1 + 1 / 2 ^ 53) * (1 + 1 / 2 ^ 53)) := by gcongr
  refine hproduct.trans_lt ?_
  rw [safe, BinaryFormat.limit_eq, cast_hidden, mul_right_comm]
  gcongr
  norm_num

/-! ### Powers of ten -/

/-- Numbers below one are never too large. -/
theorem exists_scaleTen_of_neg (pattern steps : Nat) {exponent : Int} (h : exponent < 0) :
    ∃ p, scaleTen pattern steps exponent = some p := by
  induction steps generalizing pattern exponent with
  | zero =>
      unfold scaleTen
      dsimp only
      repeat' split
      all_goals first | exact ⟨_, rfl⟩ | omega
  | succ steps ih =>
      unfold scaleTen
      dsimp only
      split
      · rw [if_neg (by omega)]
        exact ⟨_, rfl⟩
      · split
        · exact ⟨_, rfl⟩
        · rw [if_neg (by omega)]
          exact ih _ (by omega)

theorem exists_scaleTen {significand : Nat} {exponent : Int} (steps : Nat)
    (hsignificand : significand ≤ maxSignificand)
    (hsafe : 0 ≤ exponent → (significand : ℚ) * 10 ^ exponent ≤ safe) :
    ∃ p, scaleTen (BinaryFormat.double.round significand 1) steps exponent = some p := by
  have hmost : maxSignificand ≤ 10 ^ 308 := by decide +kernel
  rcases Int.lt_or_le exponent 0 with hneg | hnonneg
  · exact exists_scaleTen_of_neg _ steps hneg
  obtain ⟨places, rfl⟩ := Int.eq_ofNat_of_zero_le hnonneg
  have hbound := hsafe hnonneg
  rw [zpow_natCast] at hbound
  unfold scaleTen
  dsimp only
  rw [Int.natAbs_natCast]
  split
  · rename_i hplaces
    obtain ⟨m, q, hm, hmle⟩ := exists_rounded (hsignificand.trans hmost)
    obtain ⟨n, r, hn, hnle⟩ := exists_rounded (Decimal.powerOfTen_le hplaces)
    rw [Decimal.powerOfTen_eq, Nat.cast_pow, Nat.cast_ofNat] at hnle
    rw [hm, tenTo, hn,
      if_neg (mul_lt_infinity (Nat.cast_nonneg _) hmle hnle hbound).ne]
    exact ⟨_, rfl⟩
  · rename_i hplaces
    split
    · exact ⟨_, rfl⟩
    · -- a positive number with so large an exponent is not within the bound
      rename_i hpattern
      exfalso
      have hpos : 1 ≤ significand := by
        rcases Nat.eq_zero_or_pos significand with rfl | hpos
        · exact absurd rfl hpattern
        · exact hpos
      have hlarge : ((10 ^ 309 : Nat) : ℚ) ≤ significand * 10 ^ places := by
        have hone : (1 : ℚ) ≤ significand := by exact_mod_cast hpos
        calc ((10 ^ 309 : Nat) : ℚ) = 10 ^ 309 := by rw [Nat.cast_pow, Nat.cast_ofNat]
          _ ≤ 10 ^ places := pow_le_pow_right₀ (by norm_num) (by omega)
          _ ≤ significand * 10 ^ places := le_mul_of_one_le_left (by positivity) hone
      exact absurd (hlarge.trans hbound) (not_le.mpr safe_lt_ten_pow)

theorem exists_double? (negative : Bool) {significand : Nat} {exponent : Int}
    (hsignificand : significand ≤ maxSignificand)
    (hsafe : 0 ≤ exponent → (significand : ℚ) * 10 ^ exponent ≤ safe) :
    ∃ x, double? negative significand exponent = some x := by
  obtain ⟨p, hp⟩ := exists_scaleTen 4 hsignificand hsafe
  exact ⟨_, by rw [double?, hp]; rfl⟩

/-- Without a positive exponent no significand is too large. -/
theorem exists_double?_of_nonpos (negative : Bool) {significand : Nat} {exponent : Int}
    (hsignificand : significand ≤ maxSignificand) (hexponent : exponent ≤ 0) :
    ∃ x, double? negative significand exponent = some x := by
  refine exists_double? negative hsignificand fun hnonneg => ?_
  have hzero : exponent = 0 := by omega
  have hle : significand ≤ 10 ^ 308 := hsignificand.trans (by decide +kernel)
  rw [hzero, zpow_zero, mul_one]
  exact (Nat.cast_le.mpr hle).trans ten_pow_le_safe

/-! ### Numerals -/

/-- The significand that is read, above the exponent of its last digit, is not above the
magnitude. -/
theorem significand_mul_le {n : Numeral} {significand : Nat} {unread : List Char} {e : Int}
    (hlength : unread.length ≤ n.fraction.length)
    (hvalue : significand * 10 ^ unread.length ≤ Decimal.value (n.whole ++ n.fraction))
    (hexponent : e ≤ power n.exponent - (n.fraction.length - unread.length : Nat)) :
    (significand : ℚ) * 10 ^ e ≤ n.size := by
  have hcast : (significand : ℚ) * 10 ^ unread.length ≤ Decimal.value (n.whole ++ n.fraction) := by
    exact_mod_cast hvalue
  calc (significand : ℚ) * 10 ^ e
      ≤ significand * 10 ^ ((unread.length : Int) + (power n.exponent - n.fraction.length)) := by
        gcongr
        · norm_num
        · omega
    _ = significand * 10 ^ unread.length * 10 ^ (power n.exponent - n.fraction.length) := by
        rw [zpow_add₀ (by norm_num), zpow_natCast]
        ring
    _ ≤ n.size := by
        rw [size]
        gcongr

/-- An exponent is not raised but from below the least one. -/
theorem clamp_le {e : Int} (h : 0 ≤ IntRange.int32.clamp e) : IntRange.int32.clamp e ≤ e := by
  unfold IntRange.clamp at h ⊢
  split at h
  · exact absurd h (by decide)
  · split <;> omega

/-- **A numeral within the bound stands for a number**, if its integer part fits in 64 bits. -/
theorem exists_number? {n : Numeral} (hwhole : Decimal.value n.whole ≤ maxSignificand)
    (hpower : ∀ ds, n.exponent = some (false, ds) → Decimal.value ds ≤ maxExponent)
    (hsafe : n.size ≤ safe) : ∃ x, n.number? = some x := by
  have hread : extend maxSignificand 0 n.whole = (Decimal.value n.whole, []) :=
    extend_of_le _ _ hwhole
  obtain ⟨hsignificand, hlength, hvalue⟩ := extend_spec hwhole n.fraction
  rw [← Decimal.value_append] at hvalue
  unfold number?
  rw [hread]
  dsimp only
  set significand := (extend maxSignificand (Decimal.value n.whole) n.fraction).1
  set unread := (extend maxSignificand (Decimal.value n.whole) n.fraction).2
  have hpoint :
      (([] : List Char).length : Int) - (n.fraction.length - unread.length : Nat) ≤ 0 := by
    rw [List.length_nil]
    omega
  split
  · -- an integer
    split
    · exact ⟨_, rfl⟩
    · split
      · exact ⟨_, rfl⟩
      · exact exists_double?_of_nonpos true hwhole le_rfl
  · split
    · exact exists_double?_of_nonpos _ hsignificand hpoint
    · rename_i negative ds hexponent
      cases negative with
      | true =>
          split
          · refine exists_double?_of_nonpos _ hsignificand ?_
            rw [if_pos rfl]
            by_contra hpos
            have hle := clamp_le (Int.not_le.mp hpos).le
            omega
          · rw [if_neg (by simp)]
            exact ⟨_, rfl⟩
      | false =>
          have hds : extend maxExponent 0 ds = (Decimal.value ds, []) :=
            extend_of_le _ _ (hpower ds hexponent)
          rw [hds]
          dsimp only
          refine exists_double? _ hsignificand fun hnonneg => ?_
          refine (significand_mul_le hlength hvalue ?_).trans hsafe
          rw [if_neg (by decide)] at hnonneg ⊢
          refine (clamp_le hnonneg).trans (le_of_eq ?_)
          rw [hexponent, List.length_nil, power]
          omega

end Numeral

end RowMapper
