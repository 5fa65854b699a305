import Mathlib.Algebra.Order.Field.Power
import Mathlib.Data.Rat.Cast.Order
import Mathlib.Tactic.Linarith
import Mathlib.Tactic.NormNum
import Mathlib.Tactic.Positivity
import Mathlib.Tactic.Ring
import RowMapper.Decimal.Shortest
import RowMapper.Proofs.Decimal.Numeral

/-!
# The search for a shortest decimal

`Decimal.shortest` looks for a multiple of a power of ten among the reals that round to a number, on
one grid after the other.

* `step_mul`, `point_mul_le` — a grid in rational numbers, and the points that are found on it;
* `exists_onGrid` — a grid finer than half of the last place has such a point;
* `ten_zpow_lt` — a power of ten below a power of two;
* `exists_shortest` — within its steps the search comes to a grid that is fine enough, for every
  number of double precision.
-/

namespace RowMapper

namespace Decimal

variable {tie : TieRule} {r : Neighbourhood} {k : Int}

/-- The distance of two points of a grid, in a unit in which it is a natural number. -/
def step (r : Neighbourhood) (k : Int) : Nat := powerOfTen k.toNat <<< (-r.exponent).toNat

/-- A quarter of the last place in the same unit. -/
def quarter (r : Neighbourhood) (k : Int) : Nat := powerOfTen (-k).toNat <<< r.exponent.toNat

theorem ten_toNat_mul (k : Int) : (10 : ℚ) ^ k.toNat = 10 ^ k * 10 ^ (-k).toNat := by
  obtain ⟨n, rfl | rfl⟩ := k.eq_nat_or_neg
  · simp
  · simp

theorem two_toNat_mul (k : Int) : (2 : ℚ) ^ k.toNat = 2 ^ k * 2 ^ (-k).toNat := by
  obtain ⟨n, rfl | rfl⟩ := k.eq_nat_or_neg
  · simp
  · simp

/-- The unit drops out of the quotient of the two. -/
theorem step_mul (r : Neighbourhood) (k : Int) :
    (step r k : ℚ) * 2 ^ r.exponent = quarter r k * 10 ^ k := by
  rw [step, quarter, powerOfTen_eq, powerOfTen_eq, Nat.shiftLeft_eq, Nat.shiftLeft_eq]
  push_cast
  rw [ten_toNat_mul k, two_toNat_mul r.exponent]
  ring

theorem quarter_pos (r : Neighbourhood) (k : Int) : 0 < quarter r k := by
  rw [quarter, powerOfTen_eq, Nat.shiftLeft_eq]
  exact Nat.mul_pos (Nat.pow_pos (by decide)) (Nat.pow_pos (by decide))

theorem step_pos (r : Neighbourhood) (k : Int) : 0 < step r k := by
  rw [step, powerOfTen_eq, Nat.shiftLeft_eq]
  exact Nat.mul_pos (Nat.pow_pos (by decide)) (Nat.pow_pos (by decide))

/-- Whether a point of a grid lies in the neighbourhood. -/
def inside (r : Neighbourhood) (k : Int) (point : Nat) : Bool :=
  if r.closed then r.low * quarter r k ≤ point * step r k && point * step r k ≤ r.high * quarter r k
  else r.low * quarter r k < point * step r k && point * step r k < r.high * quarter r k

theorem bounds_of_inside {point : Nat} (h : inside r k point = true) :
    r.low * quarter r k ≤ point * step r k ∧ point * step r k ≤ r.high * quarter r k := by
  unfold inside at h
  split at h
  · simpa using h
  · have h' : r.low * quarter r k < point * step r k ∧
        point * step r k < r.high * quarter r k := by simpa using h
    exact ⟨h'.1.le, h'.2.le⟩

theorem inside_of_lt {point : Nat} (hlow : r.low * quarter r k < point * step r k)
    (hhigh : point * step r k < r.high * quarter r k) : inside r k point = true := by
  unfold inside
  split
  · simp [hlow.le, hhigh.le]
  · simp [hlow, hhigh]

/-- What is found on a grid lies in the neighbourhood. -/
theorem inside_of_onGrid {point : Nat} (h : onGrid tie r k = some point) :
    inside r k point = true := by
  unfold onGrid at h
  dsimp only at h
  rw [← step, ← quarter] at h
  set below := r.centre * quarter r k / step r k
  split at h
  · cases h
  · rename_i hbelow _
    obtain rfl := Option.some.inj h
    exact hbelow
  · rename_i _ habove
    obtain rfl := Option.some.inj h
    exact habove
  · rename_i hbelow habove
    have hpoint : point = below ∨ point = below + 1 := by
      repeat' split at h
      all_goals
        have heq := Option.some.inj h
        omega
    rcases hpoint with rfl | rfl
    · exact hbelow
    · exact habove

/-- The first point above the centre is looked at. -/
theorem exists_onGrid_of_inside
    (h : inside r k (r.centre * quarter r k / step r k + 1) = true) :
    ∃ point, onGrid tie r k = some point := by
  unfold onGrid
  dsimp only
  rw [← step, ← quarter]
  split
  · rename_i habove
    exact absurd (habove.symm.trans h) (by decide)
  · exact ⟨_, rfl⟩
  · exact ⟨_, rfl⟩
  · repeat' split
    all_goals exact ⟨_, rfl⟩

/-- A point of the neighbourhood, as a number. -/
theorem point_mul_le {point : Nat} (h : inside r k point = true) :
    (point : ℚ) * 10 ^ k ≤ r.high * 2 ^ r.exponent := by
  have hbound : (point : ℚ) * step r k ≤ r.high * quarter r k := by
    exact_mod_cast (bounds_of_inside h).2
  have hquarter : (0 : ℚ) < quarter r k := by exact_mod_cast quarter_pos r k
  refine le_of_mul_le_mul_right ?_ hquarter
  calc (point : ℚ) * 10 ^ k * quarter r k = point * (quarter r k * 10 ^ k) := by ring
    _ = point * step r k * 2 ^ r.exponent := by
        rw [← step_mul]
        ring
    _ ≤ r.high * quarter r k * 2 ^ r.exponent := by gcongr
    _ = r.high * 2 ^ r.exponent * quarter r k := by ring

/-- Zero does not lie in the neighbourhood of a positive number. -/
theorem point_pos {point : Nat} (hlow : 0 < r.low) (h : inside r k point = true) : 0 < point := by
  refine Nat.pos_of_ne_zero ?_
  rintro rfl
  have hbound := (bounds_of_inside h).1
  have hpos := Nat.mul_pos hlow (quarter_pos r k)
  omega

/-- A grid with less than half of the last place from point to point has a point in the
neighbourhood: the first one above the centre. -/
theorem exists_onGrid (tie : TieRule) (hlow : r.low ≤ r.centre) (hhigh : r.high = r.centre + 2)
    (hfine : (10 : ℚ) ^ k < 2 ^ (r.exponent + 1)) : ∃ point, onGrid tie r k = some point := by
  refine exists_onGrid_of_inside ?_
  have hstep : step r k < 2 * quarter r k := by
    have hunit : (0 : ℚ) < 2 ^ r.exponent := by positivity
    have hquarter : (0 : ℚ) < quarter r k := by exact_mod_cast quarter_pos r k
    have hlt : (step r k : ℚ) < (2 * quarter r k : Nat) := by
      refine lt_of_mul_lt_mul_right ?_ hunit.le
      calc (step r k : ℚ) * 2 ^ r.exponent = quarter r k * 10 ^ k := step_mul r k
        _ < quarter r k * 2 ^ (r.exponent + 1) := by gcongr
        _ = (2 * quarter r k : Nat) * 2 ^ r.exponent := by
            rw [zpow_add_one₀ two_ne_zero]
            push_cast
            ring
    exact_mod_cast hlt
  have habove : r.centre * quarter r k <
      (r.centre * quarter r k / step r k + 1) * step r k := by
    rw [Nat.mul_comm _ (step r k)]
    exact Nat.lt_mul_div_succ _ (step_pos r k)
  have hbelow : r.centre * quarter r k / step r k * step r k ≤ r.centre * quarter r k :=
    Nat.div_mul_le_self _ _
  refine inside_of_lt (lt_of_le_of_lt (Nat.mul_le_mul_right _ hlow) habove) ?_
  have htop : r.high * quarter r k = r.centre * quarter r k + 2 * quarter r k := by
    rw [hhigh, Nat.add_mul]
  rw [htop, Nat.succ_mul]
  omega

/-! ### The steps of the search -/

/-- The search ends on some grid if one of those that it has the steps for has a point. -/
theorem exists_coarsest {steps j : Nat} (hj : j < steps)
    (hfound : ∃ point, onGrid tie r (k - j) = some point) :
    ∃ point k', coarsest tie r steps k = (point, k') ∧ onGrid tie r k' = some point := by
  induction steps generalizing k j with
  | zero => exact absurd hj (Nat.not_lt_zero j)
  | succ steps ih =>
      rw [coarsest]
      cases hgrid : onGrid tie r k with
      | some point => exact ⟨point, k, rfl, hgrid⟩
      | none =>
          cases j with
          | zero =>
              obtain ⟨point, hpoint⟩ := hfound
              rw [Nat.cast_zero, sub_zero, hgrid] at hpoint
              cases hpoint
          | succ j =>
              refine ih (Nat.lt_of_succ_lt_succ hj) ?_
              have hsub : k - 1 - (j : Int) = k - ((j + 1 : Nat) : Int) := by
                push_cast
                ring
              rwa [hsub]

/-- Ten is a little less than `2 ^ (10 / 3)`. -/
theorem ten_pow_le (n : Nat) : (10 : ℚ) ^ n ≤ 2 ^ (10 * ((n + 2) / 3)) := by
  calc (10 : ℚ) ^ n ≤ 10 ^ (3 * ((n + 2) / 3)) :=
        pow_le_pow_right₀ (by norm_num) (by omega)
    _ = (10 ^ 3) ^ ((n + 2) / 3) := pow_mul _ _ _
    _ ≤ (2 ^ 10) ^ ((n + 2) / 3) := by
        gcongr
        norm_num
    _ = 2 ^ (10 * ((n + 2) / 3)) := (pow_mul _ _ _).symm

/-- Ten is a little more than `2 ^ (23 / 7)`. -/
theorem le_ten_pow (n : Nat) : (2 : ℚ) ^ (23 * (n / 7) + 3 * (n % 7)) ≤ 10 ^ n := by
  calc (2 : ℚ) ^ (23 * (n / 7) + 3 * (n % 7)) = (2 ^ 23) ^ (n / 7) * (2 ^ 3) ^ (n % 7) := by
        rw [pow_add, pow_mul, pow_mul]
    _ ≤ (10 ^ 7) ^ (n / 7) * 10 ^ (n % 7) := by
        gcongr <;> norm_num
    _ = 10 ^ n := by
        rw [← pow_mul, ← pow_add, Nat.div_add_mod]

/-- Over the exponents of double precision the estimates of a power of ten are good enough for some
of the grids that are searched. -/
theorem ten_zpow_lt {leading : Nat} {exponent : Int} (hleading : leading ≤ 52)
    (hlow : -1074 ≤ exponent) (hhigh : exponent ≤ 971) :
    (10 : ℚ) ^ (((leading : Int) + exponent + 1) * 30103 / 100000 + 1 - (23 : Nat)) <
      2 ^ (exponent - 1) := by
  set k := ((leading : Int) + exponent + 1) * 30103 / 100000 + 1 - (23 : Nat) with hk
  obtain ⟨n, hn | hn⟩ := k.eq_nat_or_neg
  · rw [hn, zpow_natCast]
    refine (ten_pow_le n).trans_lt ?_
    rw [← zpow_natCast]
    refine zpow_lt_zpow_right₀ one_lt_two ?_
    omega
  · rw [hn, zpow_neg, zpow_natCast]
    have hle : ((10 : ℚ) ^ n)⁻¹ ≤ (2 ^ (23 * (n / 7) + 3 * (n % 7)))⁻¹ := by
      gcongr
      exact le_ten_pow n
    refine hle.trans_lt ?_
    rw [← zpow_natCast, ← zpow_neg]
    refine zpow_lt_zpow_right₀ one_lt_two ?_
    omega

/-- **The search finds a decimal.**  It is positive, and no further above the number than half of
the last place. -/
theorem exists_shortest (f : BinaryFormat) (tie : TieRule) {significand : Nat} {exponent : Int}
    (hpos : 0 < significand) (hsmall : significand < 2 ^ 53) (hlow : -1074 ≤ exponent)
    (hhigh : exponent ≤ 971) :
    ∃ point k, shortest f tie significand exponent = (point, k) ∧ 0 < point ∧
      (point : ℚ) * 10 ^ k ≤ (significand + 1 / 2) * 2 ^ exponent := by
  have hlog : significand.log2 ≤ 52 :=
    Nat.le_of_lt_succ ((Nat.log2_lt hpos.ne').mpr hsmall)
  have hexponent : (neighbourhood f significand exponent).exponent = exponent - 2 := rfl
  have hfound := exists_onGrid (r := neighbourhood f significand exponent) tie (Nat.sub_le _ _) rfl
    (k := ((significand.log2 : Int) + exponent + 1) * 30103 / 100000 + 1 - (23 : Nat))
    (by
      have hshift : exponent - 2 + 1 = exponent - 1 := by ring
      rw [hexponent, hshift]
      exact ten_zpow_lt hlog hlow hhigh)
  obtain ⟨point, k, hsearch, hgrid⟩ := exists_coarsest (by decide : 23 < 24) hfound
  have hinside := inside_of_onGrid hgrid
  have hbottom : 0 < (neighbourhood f significand exponent).low := by
    change 0 < 4 * significand - ite _ _ _
    split <;> omega
  refine ⟨point, k, hsearch, point_pos hbottom hinside, (point_mul_le hinside).trans (le_of_eq ?_)⟩
  have htop : (neighbourhood f significand exponent).high = 4 * significand + 2 := rfl
  rw [htop, hexponent, zpow_sub₀ two_ne_zero]
  push_cast
  ring

end Decimal

end RowMapper
