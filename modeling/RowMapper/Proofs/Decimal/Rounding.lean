import Mathlib.Algebra.Order.Field.Power
import Mathlib.Data.Rat.Cast.Order
import Mathlib.Tactic.FieldSimp
import Mathlib.Tactic.Linarith
import Mathlib.Tactic.Positivity
import Mathlib.Tactic.Ring
import RowMapper.Decimal.Binary

/-!
# Rounding to a binary floating-point format

How far the number that `BinaryFormat.round` answers lies from the quotient that it was given, and
where it answers infinity.

* `abs_divToEven_sub_le`, `floorLog2_spec` — the two steps of a rounding, in rational numbers;
* `exists_round` — the pattern is a significand above an exponent, and the significand is near to
  the quotient in units of the last place;
* `exists_decode` — such a pattern is read as that number;
* `BinaryFormat.limit`, `round_lt_infinity`, `roundScaled_lt_infinity` — no smaller number is
  rounded to infinity;
* `exists_decode_round` — the error of a rounding relative to what was rounded.

### The carry

A significand may be rounded up to the next power of two.  The pattern then has a fraction of zero
and the next exponent, which is the same number, so that no lemma about values has to tell this case
apart; only `exists_decode` does.
-/

namespace RowMapper

/-! ### Quotients -/

theorem divToEven_bounds (num : Nat) {den : Nat} (hden : 0 < den) :
    2 * (den * divToEven num den) ≤ 2 * num + den ∧
      2 * num ≤ 2 * (den * divToEven num den) + den := by
  have hsplit := Nat.div_add_mod num den
  have hlt := Nat.mod_lt num hden
  have hsucc : den * (num / den + 1) = den * (num / den) + den := Nat.mul_succ _ _
  unfold divToEven
  dsimp only
  split
  · omega
  · split
    · omega
    · split <;> omega

/-- The rounded quotient is off by at most a half. -/
theorem abs_divToEven_sub_le (num : Nat) {den : Nat} (hden : 0 < den) :
    |(divToEven num den : ℚ) - num / den| ≤ 1 / 2 := by
  obtain ⟨hup, hdown⟩ := divToEven_bounds num hden
  have hden' : (0 : ℚ) < den := by exact_mod_cast hden
  have hup' : 2 * ((den : ℚ) * divToEven num den) ≤ 2 * num + den := by exact_mod_cast hup
  have hdown' : 2 * (num : ℚ) ≤ 2 * (den * divToEven num den) + den := by exact_mod_cast hdown
  have hnum : (num : ℚ) / den * den = num := div_mul_cancel₀ _ hden'.ne'
  rw [abs_le]
  constructor
  · refine le_of_mul_le_mul_right ?_ hden'
    linarith
  · refine le_of_mul_le_mul_right ?_ hden'
    linarith

namespace BinaryFormat

/-- A power of two stands on the side of the quotient on which it is a natural number. -/
theorem cast_shift_div (num den : Nat) (exponent : Int) :
    ((num <<< (-exponent).toNat : Nat) : ℚ) / (den <<< exponent.toNat : Nat) =
      num / den / 2 ^ exponent := by
  obtain ⟨n, rfl | rfl⟩ := exponent.eq_nat_or_neg
  · simp [Nat.shiftLeft_eq, div_div]
  · simp [Nat.shiftLeft_eq]
    ring

theorem log2_bounds {n : Nat} (hn : n ≠ 0) :
    (2 : ℚ) ^ (n.log2 : Int) ≤ n ∧ (n : ℚ) < 2 ^ ((n.log2 : Int) + 1) := by
  constructor
  · exact_mod_cast Nat.log2_self_le hn
  · exact_mod_cast Nat.lt_log2_self

theorem floorLog2_spec {num den : Nat} (hnum : num ≠ 0) (hden : den ≠ 0) :
    (2 : ℚ) ^ floorLog2 num den ≤ num / den ∧
      (num : ℚ) / den < 2 ^ (floorLog2 num den + 1) := by
  obtain ⟨hnum_low, hnum_high⟩ := log2_bounds hnum
  obtain ⟨hden_low, hden_high⟩ := log2_bounds hden
  have hpos : (0 : ℚ) < den := by exact_mod_cast Nat.pos_of_ne_zero hden
  set guess : Int := (num.log2 : Int) - den.log2 with hguess
  have hlow : (2 : ℚ) ^ (guess - 1) ≤ num / den := by
    rw [le_div_iff₀ hpos]
    calc (2 : ℚ) ^ (guess - 1) * den ≤ 2 ^ (guess - 1) * 2 ^ ((den.log2 : Int) + 1) := by
          gcongr
      _ = 2 ^ (num.log2 : Int) := by
          rw [← zpow_add₀ two_ne_zero]
          congr 1
          omega
      _ ≤ num := hnum_low
  have hhigh : (num : ℚ) / den < 2 ^ (guess + 1) := by
    rw [div_lt_iff₀ hpos]
    calc (num : ℚ) < 2 ^ ((num.log2 : Int) + 1) := hnum_high
      _ = 2 ^ (guess + 1) * 2 ^ (den.log2 : Int) := by
          rw [← zpow_add₀ two_ne_zero]
          congr 1
          omega
      _ ≤ 2 ^ (guess + 1) * den := by gcongr
  -- the guess is right where the quotient reaches its power of two
  have htest : den <<< guess.toNat ≤ num <<< (-guess).toNat ↔ (2 : ℚ) ^ guess ≤ num / den := by
    have hshift : (0 : ℚ) < (den <<< guess.toNat : Nat) := by
      rw [Nat.shiftLeft_eq]
      positivity
    rw [← one_le_div₀ (zpow_pos two_pos guess), ← cast_shift_div, one_le_div₀ hshift, Nat.cast_le]
  unfold floorLog2
  dsimp only
  rw [← hguess]
  split
  · rename_i h
    exact ⟨htest.mp h, hhigh⟩
  · rename_i h
    rw [htest, not_le] at h
    rw [sub_add_cancel]
    exact ⟨hlow, h⟩

/-! ### Patterns -/

section Round

variable {f : BinaryFormat}

theorem hidden_eq (f : BinaryFormat) : f.hidden = 2 ^ (f.precision - 1) := Nat.one_shiftLeft _

theorem hidden_pos (f : BinaryFormat) : 0 < f.hidden := by
  rw [hidden_eq]
  positivity

theorem two_mul_hidden (hprecision : 0 < f.precision) :
    (2 * f.hidden : ℚ) = 2 ^ (f.precision : Int) := by
  obtain ⟨p, hp⟩ := Nat.exists_eq_succ_of_ne_zero hprecision.ne'
  rw [hidden_eq, hp, Nat.succ_eq_add_one, Nat.add_sub_cancel, zpow_natCast, pow_succ]
  push_cast
  ring

/-- A rounded quotient is a significand above an exponent.  The significand is near to the quotient,
and the exponent is no larger than it takes to hold it, unless it is the least one. -/
theorem exists_round {num den : Nat} (hnum : num ≠ 0) (hden : den ≠ 0)
    (hprecision : 0 < f.precision) :
    ∃ (places significand : Nat) (exponent : Int),
      f.round num den = min (places * f.hidden + significand) f.infinity ∧
      exponent = f.minExponent + places ∧
      |(significand : ℚ) * 2 ^ exponent - num / den| ≤ 2 ^ exponent / 2 ∧
      (num : ℚ) / den < 2 ^ (exponent + f.precision) ∧
      (places = 0 ∨ (2 : ℚ) ^ (exponent + f.precision - 1) ≤ num / den) := by
  obtain ⟨hlow, hhigh⟩ := floorLog2_spec hnum hden
  set wanted := floorLog2 num den - (f.precision - 1 : Nat) with hwanted
  set exponent := if wanted < f.minExponent then f.minExponent else wanted with hexponent
  have hmin : f.minExponent ≤ exponent := by
    rw [hexponent]
    split <;> omega
  have hge : wanted ≤ exponent := by
    rw [hexponent]
    split <;> omega
  refine ⟨(exponent - f.minExponent).toNat,
    divToEven (num <<< (-exponent).toNat) (den <<< exponent.toNat), exponent, ?_, by omega, ?_, ?_,
    ?_⟩
  · rw [round, if_neg hnum]
  · have hpos : 0 < den <<< exponent.toNat := by
      rw [Nat.shiftLeft_eq]
      exact Nat.mul_pos (Nat.pos_of_ne_zero hden) (by positivity)
    have hnear := abs_divToEven_sub_le (num <<< (-exponent).toNat) hpos
    rw [cast_shift_div] at hnear
    have hunit : (0 : ℚ) < 2 ^ exponent := by positivity
    set s : ℚ := (divToEven (num <<< (-exponent).toNat) (den <<< exponent.toNat) : ℚ)
    calc |s * 2 ^ exponent - num / den|
        = |(s - num / den / 2 ^ exponent) * 2 ^ exponent| := by
          rw [sub_mul, div_mul_cancel₀ _ hunit.ne']
      _ = |s - num / den / 2 ^ exponent| * 2 ^ exponent := by
          rw [abs_mul, abs_of_pos hunit]
      _ ≤ 1 / 2 * 2 ^ exponent := by gcongr
      _ = 2 ^ exponent / 2 := by ring
  · refine hhigh.trans_le (zpow_le_zpow_right₀ one_le_two ?_)
    omega
  · by_cases hsmall : wanted < f.minExponent
    · left
      rw [hexponent, if_pos hsmall]
      simp
    · right
      rw [hexponent, if_neg hsmall]
      refine (zpow_le_zpow_right₀ one_le_two ?_).trans hlow
      omega

/-- The bounds of a significand that is near to a quotient. -/
theorem significand_bounds {significand : Nat} {exponent : Int} {x : ℚ}
    (hprecision : 0 < f.precision)
    (hnear : |(significand : ℚ) * 2 ^ exponent - x| ≤ 2 ^ exponent / 2)
    (hhigh : x < 2 ^ (exponent + f.precision)) :
    significand ≤ 2 * f.hidden ∧
      ((2 : ℚ) ^ (exponent + f.precision - 1) ≤ x → f.hidden ≤ significand) := by
  have hunit : (0 : ℚ) < 2 ^ exponent := by positivity
  have htop : (2 : ℚ) ^ (exponent + f.precision) = 2 * f.hidden * 2 ^ exponent := by
    rw [zpow_add₀ two_ne_zero, ← two_mul_hidden hprecision, mul_comm]
  obtain ⟨hup, hdown⟩ := abs_le.mp hnear
  constructor
  · have hlt : (significand : ℚ) < (2 * f.hidden : Nat) + 1 := by
      refine lt_of_mul_lt_mul_right ?_ hunit.le
      push_cast
      linarith
    have : significand < 2 * f.hidden + 1 := by exact_mod_cast hlt
    omega
  · intro hlow
    have hhalf : (2 : ℚ) ^ (exponent + f.precision - 1) = f.hidden * 2 ^ exponent := by
      rw [zpow_sub_one₀ two_ne_zero, htop]
      ring
    have hlt : (f.hidden : ℚ) < significand + 1 := by
      refine lt_of_mul_lt_mul_right ?_ hunit.le
      linarith
    have : f.hidden < significand + 1 := by exact_mod_cast hlt
    omega

/-- The parts of a pattern. -/
theorem decode_field {field fraction : Nat} (hfraction : fraction < f.hidden)
    (hfield : field < f.fullField) :
    f.decode (field * f.hidden + fraction) =
      if field = 0 then .finite fraction f.minExponent
      else .finite (f.hidden + fraction) (f.minExponent + field - 1) := by
  have hdiv : (field * f.hidden + fraction) / f.hidden = field := by
    rw [Nat.mul_comm, Nat.mul_add_div f.hidden_pos, Nat.div_eq_of_lt hfraction, Nat.add_zero]
  have hmod : (field * f.hidden + fraction) % f.hidden = fraction := by
    rw [Nat.mul_comm, Nat.mul_add_mod, Nat.mod_eq_of_lt hfraction]
  unfold decode
  dsimp only
  rw [hdiv, hmod, if_neg hfield.ne]

/-- A significand above its exponent is read as their number, also where it is carried into the
exponent. -/
theorem exists_decode {places significand : Nat}
    (hplaces : places = 0 ∨ f.hidden ≤ significand) (hcarry : significand ≤ 2 * f.hidden)
    (hfinite : places * f.hidden + significand < f.infinity) :
    ∃ m e, f.decode (places * f.hidden + significand) = .finite m e ∧
      (m : ℚ) * 2 ^ e = significand * 2 ^ (f.minExponent + places) := by
  have hfield {field fraction : Nat}
      (h : field * f.hidden + fraction = places * f.hidden + significand) :
      field < f.fullField := by
    by_contra hge
    have hle : f.fullField * f.hidden ≤ field * f.hidden :=
      Nat.mul_le_mul_right _ (Nat.le_of_not_lt hge)
    rw [infinity] at hfinite
    omega
  rcases Nat.lt_or_ge significand f.hidden with hsmall | hlarge
  · -- a subnormal number
    obtain rfl : places = 0 := by omega
    refine ⟨_, _, decode_field hsmall (hfield rfl), ?_⟩
    rw [Nat.cast_zero, add_zero]
  · rcases hcarry.lt_or_eq with hnormal | hfull
    · have hsplit : (places + 1) * f.hidden + (significand - f.hidden) =
          places * f.hidden + significand := by
        rw [Nat.succ_mul]
        omega
      rw [← hsplit, decode_field (by omega) (hfield hsplit), if_neg (by omega)]
      refine ⟨_, _, rfl, ?_⟩
      rw [Nat.add_sub_cancel' hlarge]
      congr 2
      push_cast
      ring
    · have hsplit : (places + 2) * f.hidden + 0 = places * f.hidden + significand := by
        rw [hfull, Nat.add_mul, Nat.add_zero]
      rw [← hsplit, decode_field f.hidden_pos (hfield hsplit), if_neg (by omega)]
      refine ⟨_, _, rfl, ?_⟩
      have hexponent : f.minExponent + ((places + 2 : Nat) : Int) - 1 =
          f.minExponent + places + 1 := by
        push_cast
        ring
      rw [hexponent, hfull, zpow_add_one₀ two_ne_zero]
      push_cast
      ring

/-! ### Infinity -/

/-- The exponent of the last place of the largest numbers. -/
def maxExponent (f : BinaryFormat) : Int := f.minExponent + f.fullField - 2

/-- The number half a place above the largest one, from which on numbers are rounded to infinity. -/
def limit (f : BinaryFormat) : ℚ := (2 * f.hidden - 1 / 2) * 2 ^ f.maxExponent

theorem limit_eq (f : BinaryFormat) : f.limit = (4 * f.hidden - 1) * 2 ^ (f.maxExponent - 1) := by
  rw [limit, zpow_sub_one₀ two_ne_zero]
  ring

/-- Numbers below the limit are rounded to finite ones. -/
theorem round_lt_infinity {num den : Nat} (hden : den ≠ 0) (hprecision : 0 < f.precision)
    (hfield : 2 ≤ f.fullField) (hlimit : (num : ℚ) / den < f.limit) :
    f.round num den < f.infinity := by
  have hfull : f.infinity = (f.fullField - 2) * f.hidden + 2 * f.hidden := by
    rw [infinity, ← Nat.add_mul, Nat.sub_add_cancel hfield]
  have hhidden := f.hidden_pos
  by_cases hnum : num = 0
  · rw [round, if_pos hnum]
    omega
  obtain ⟨places, significand, exponent, hround, hexponent, hnear, hhigh, hlow⟩ :=
    exists_round hnum hden hprecision
  obtain ⟨hcarry, -⟩ := significand_bounds hprecision hnear hhigh
  have hmax : f.maxExponent = f.minExponent + (f.fullField - 2 : Nat) := by
    rw [maxExponent]
    omega
  have hunit : (0 : ℚ) < 2 ^ f.maxExponent := by positivity
  rw [limit] at hlimit
  refine hround ▸ lt_of_le_of_lt (Nat.min_le_left _ _) ?_
  rcases Nat.lt_trichotomy places (f.fullField - 2) with hbelow | rfl | habove
  · have hle : (places + 1) * f.hidden ≤ (f.fullField - 2) * f.hidden :=
      Nat.mul_le_mul_right _ hbelow
    rw [Nat.succ_mul] at hle
    omega
  · -- the last exponent: the significand is rounded by half a place, which does not fill it
    rw [hexponent, ← hmax] at hnear
    have hlt : (significand : ℚ) < (2 * f.hidden : Nat) := by
      refine lt_of_mul_lt_mul_right ?_ hunit.le
      push_cast
      linarith [(abs_le.mp hnear).2]
    have : significand < 2 * f.hidden := by exact_mod_cast hlt
    omega
  · exfalso
    rcases hlow with rfl | hlow
    · omega
    have hle : (2 : ℚ) ^ (f.maxExponent + f.precision) ≤ num / den :=
      (zpow_le_zpow_right₀ one_le_two (by omega)).trans hlow
    rw [zpow_add₀ two_ne_zero, ← two_mul_hidden hprecision] at hle
    linarith

theorem roundScaled_lt_infinity {significand : Nat} {exponent : Int}
    (hprecision : 0 < f.precision) (hfield : 2 ≤ f.fullField)
    (hlimit : (significand : ℚ) * 2 ^ exponent < f.limit) :
    f.roundScaled significand exponent < f.infinity := by
  refine round_lt_infinity ?_ hprecision hfield ?_
  · rw [Nat.one_shiftLeft]
    positivity
  · have hshift := cast_shift_div significand 1 (-exponent)
    rw [neg_neg, zpow_neg, div_inv_eq_mul, Nat.cast_one, div_one] at hshift
    rwa [hshift]

/-- A quotient that is no subnormal number is rounded by at most half of a last place. -/
theorem exists_decode_round {num den : Nat} (hden : den ≠ 0) (hprecision : 0 < f.precision)
    (hnormal : (2 : ℚ) ^ (f.minExponent + f.precision - 1) ≤ num / den)
    (hfinite : f.round num den < f.infinity) :
    ∃ m e, f.decode (f.round num den) = .finite m e ∧
      |(m : ℚ) * 2 ^ e - num / den| ≤ num / den / 2 ^ f.precision := by
  have hnum : num ≠ 0 := by
    rintro rfl
    rw [Nat.cast_zero, zero_div] at hnormal
    exact absurd hnormal (not_le.mpr (by positivity))
  obtain ⟨places, significand, exponent, hround, hexponent, hnear, hhigh, hlow⟩ :=
    exists_round hnum hden hprecision
  have hleast : (2 : ℚ) ^ (exponent + f.precision - 1) ≤ num / den := by
    rcases hlow with rfl | hlow
    · rwa [hexponent, Nat.cast_zero, add_zero]
    · exact hlow
  obtain ⟨hcarry, hlarge⟩ := significand_bounds hprecision hnear hhigh
  have hlt : places * f.hidden + significand < f.infinity := by
    rw [hround] at hfinite
    omega
  rw [hround, Nat.min_eq_left hlt.le]
  obtain ⟨m, e, hdecode, hvalue⟩ := exists_decode (.inr (hlarge hleast)) hcarry hlt
  refine ⟨m, e, hdecode, ?_⟩
  rw [hvalue, ← hexponent]
  refine hnear.trans ?_
  rw [le_div_iff₀ (by positivity)]
  refine le_trans (le_of_eq ?_) hleast
  rw [zpow_sub_one₀ two_ne_zero, zpow_add₀ two_ne_zero, zpow_natCast]
  ring

end Round

end BinaryFormat

end RowMapper
