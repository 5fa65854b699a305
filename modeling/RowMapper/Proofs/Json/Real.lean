import RowMapper.Json.Printer
import RowMapper.Proofs.Decimal.Shortest
import RowMapper.Proofs.Json.Magnitude
import RowMapper.Proofs.Json.RoundTrip

/-!
# Written floating-point numbers are read

Every finite floating-point number is written as a numeral that a reader takes.

* `DecimalStyle.numeral`, `toList_layOut` — the parts of the text of a decimal;
* `wellFormed_numeral`, `size_numeral` — it is a numeral, and its magnitude is that of the decimal
  that is laid out;
* `exists_number?_numeral` — the shortest decimal of a number is not too large;
* `Json.exists_readValue_double`, `Json.exists_readValue_single` — the text is read as a number.

### The largest numbers

A shortest decimal may lie above its number, and the three roundings of a reader may add to that.
For all but two magnitudes there is room enough before infinity (`Numeral.safe`).  Those two are
read through by computation.
-/

namespace RowMapper

namespace DecimalStyle

variable {style : DecimalStyle} {negative : Bool} {point : Nat} {k : Int}

/-- Decimal exponent of the leading digit. -/
def leading (point : Nat) (k : Int) : Int := k + (Decimal.digits point).length - 1

/-- The parts of the text of `point * 10 ^ k`. -/
def numeral (style : DecimalStyle) (negative : Bool) (point : Nat) (k : Int) : Numeral :=
  let ds := Decimal.digits point
  if style.exponentBelow ≤ leading point k ∧ leading point k < style.exponentFrom then
    if 0 ≤ k then ⟨negative, ds ++ List.replicate k.toNat '0', ['0'], none⟩
    else if 0 ≤ leading point k then
      ⟨negative, ds.take ((leading point k).toNat + 1), ds.drop ((leading point k).toNat + 1), none⟩
    else ⟨negative, ['0'], List.replicate (-leading point k - 1).toNat '0' ++ ds, none⟩
  else
    ⟨negative, ds.take 1, ds.drop 1,
      some (leading point k < 0, Decimal.digits (leading point k).natAbs)⟩

/-- The cases of the layout, with what is known in each of them. -/
theorem numeral_cases {P : Numeral → Prop}
    (large : 0 ≤ k → leading point k < style.exponentFrom →
      P ⟨negative, Decimal.digits point ++ List.replicate k.toNat '0', ['0'], none⟩)
    (split : k < 0 → 0 ≤ leading point k → leading point k < style.exponentFrom →
      P ⟨negative, (Decimal.digits point).take ((leading point k).toNat + 1),
        (Decimal.digits point).drop ((leading point k).toNat + 1), none⟩)
    (small : leading point k < 0 →
      P ⟨negative, ['0'],
        List.replicate (-leading point k - 1).toNat '0' ++ Decimal.digits point, none⟩)
    (scientific : P ⟨negative, (Decimal.digits point).take 1, (Decimal.digits point).drop 1,
      some (leading point k < 0, Decimal.digits (leading point k).natAbs)⟩) :
    P (style.numeral negative point k) := by
  unfold numeral
  dsimp only
  split_ifs with hrange hk hleading
  · exact large hk hrange.2
  · exact split (Int.not_le.mp hk) hleading hrange.2
  · exact small (Int.not_le.mp hleading)
  · exact scientific

theorem length_digits_pos (n : Nat) : 0 < (Decimal.digits n).length :=
  List.length_pos_iff.mpr (Decimal.digits_ne_nil n)

theorem toList_toString (n : Nat) : (toString n).toList = Decimal.digits n := by
  rw [Nat.toString_eq_ofList_toDigits, String.toList_ofList]
  rfl

/-- The digits behind the first one, with their point. -/
theorem toList_fraction (ds : List Char) :
    (if ds.length ≤ 1 then "" else "." ++ String.ofList (ds.drop 1)).toList =
      Numeral.fractionText (ds.drop 1) := by
  unfold Numeral.fractionText
  by_cases hone : ds.length ≤ 1
  · rw [if_pos hone, if_pos (List.drop_eq_nil_iff.mpr hone)]
    rfl
  · rw [if_neg hone, if_neg (mt List.drop_eq_nil_iff.mp hone)]
    simp

/-- The text of a decimal is that of its parts. -/
theorem toList_layOut (hplus : style.plus = "+") :
    (style.layOut point k).toList = (style.numeral false point k).text := by
  have hpoint : ".".toList = ['.'] := rfl
  unfold layOut numeral Numeral.text
  dsimp only
  rw [← leading]
  simp only [Bool.and_eq_true, decide_eq_true_eq]
  by_cases hrange : style.exponentBelow ≤ leading point k ∧ leading point k < style.exponentFrom
  · rw [if_pos hrange, if_pos hrange]
    by_cases hk : 0 ≤ k
    · have hend : ".0".toList = ['.', '0'] := rfl
      simp only [if_pos hk, String.toList_append, String.toList_ofList, hend]
      simp [Numeral.fractionText, Numeral.exponentText]
    · by_cases hleading : 0 ≤ leading point k
      · have hdrop : (Decimal.digits point).drop ((leading point k).toNat + 1) ≠ [] := by
          have hdef : leading point k = k + (Decimal.digits point).length - 1 := rfl
          rw [Ne, List.drop_eq_nil_iff]
          omega
        simp only [if_neg hk, if_pos hleading, String.toList_append, String.toList_ofList, hpoint,
          Numeral.fractionText, if_neg hdrop, Numeral.exponentText]
        simp
      · have hne : List.replicate (-leading point k - 1).toNat '0' ++ Decimal.digits point ≠ [] :=
          List.append_ne_nil_of_right_ne_nil _ (Decimal.digits_ne_nil point)
        have hstart : "0.".toList = ['0', '.'] := rfl
        simp only [if_neg hk, if_neg hleading, String.toList_append, String.toList_ofList, hstart,
          Numeral.fractionText, if_neg hne, Numeral.exponentText]
        simp
  · rw [if_neg hrange, if_neg hrange]
    simp only [String.toList_append, String.toList_ofList, toList_fraction, toList_toString, hplus,
      Numeral.exponentText]
    by_cases hneg : leading point k < 0
    · simp [hneg]
    · simp [hneg]

/-- But for the sign, the parts do not depend on it. -/
theorem numeral_eq (style : DecimalStyle) (negative : Bool) (point : Nat) (k : Int) :
    style.numeral negative point k = { style.numeral false point k with negative } := by
  unfold numeral
  dsimp only
  split_ifs <;> rfl

/-- The sign stands in front of all. -/
theorem text_numeral (style : DecimalStyle) (negative : Bool) (point : Nat) (k : Int) :
    (style.numeral negative point k).text =
      (if negative then ['-'] else []) ++ (style.numeral false point k).text := by
  have hfalse : (style.numeral false point k).negative = false := by rw [numeral_eq]
  rw [numeral_eq, Numeral.text, Numeral.text, hfalse]
  cases negative <;> rfl

/-! ### The parts as a numeral -/

theorem wellFormed_numeral (style : DecimalStyle) (negative : Bool) (hpoint : point ≠ 0) (k : Int) :
    (style.numeral negative point k).WellFormed := by
  have hne := Decimal.digits_ne_nil point
  have hhead := Decimal.head?_digits_ne hpoint
  have hdigit : ∀ c ∈ Decimal.digits point, c.isDigit = true :=
    fun _ hc => Decimal.isDigit_of_mem_digits hc
  have hzero : ∀ n, ∀ c ∈ List.replicate n '0', c.isDigit = true := fun n c hc => by
    rw [List.eq_of_mem_replicate hc]
    rfl
  obtain ⟨d, tail, hd⟩ := List.exists_cons_of_ne_nil hne
  have htake : ∀ n, ((Decimal.digits point).take (n + 1)).head? ≠ some '0' := fun n => by
    rw [hd] at hhead ⊢
    exact hhead
  apply numeral_cases
  · intro _ _
    refine ⟨List.append_ne_nil_of_left_ne_nil hne _, ?_, .inr ?_, ?_, fun _ _ h => by cases h⟩
    · exact List.forall_mem_append.mpr ⟨hdigit, hzero _⟩
    · rw [hd] at hhead ⊢
      exact hhead
    · exact hzero 1
  · intro _ _ _
    refine ⟨?_, fun c hc => hdigit c (List.mem_of_mem_take hc), .inr (htake _),
      fun c hc => hdigit c (List.mem_of_mem_drop hc), fun _ _ h => by cases h⟩
    rw [hd]
    exact List.cons_ne_nil _ _
  · intro _
    refine ⟨List.cons_ne_nil _ _, hzero 1, .inl rfl, ?_, fun _ _ h => by cases h⟩
    exact List.forall_mem_append.mpr ⟨hzero _, hdigit⟩
  · refine ⟨?_, fun c hc => hdigit c (List.mem_of_mem_take hc), .inr (htake 0),
      fun c hc => hdigit c (List.mem_of_mem_drop hc), ?_⟩
    · rw [hd]
      exact List.cons_ne_nil _ _
    · rintro _ ds ⟨⟩
      exact ⟨Decimal.digits_ne_nil _, fun _ hc => Decimal.isDigit_of_mem_digits hc⟩

/-- The parts stand for the decimal. -/
theorem size_numeral (style : DecimalStyle) (negative : Bool) (point : Nat) (k : Int) :
    (style.numeral negative point k).size = point * 10 ^ k := by
  have hlength := length_digits_pos point
  have hdef : leading point k = k + (Decimal.digits point).length - 1 := rfl
  -- but for the zeros behind a whole number, the digits are those of the point
  have hsize {n : Numeral} (hvalue : Decimal.value (n.whole ++ n.fraction) = point)
      (hpower : Numeral.power n.exponent - n.fraction.length = k) : n.size = point * 10 ^ k := by
    rw [Numeral.size, hvalue, hpower]
  refine numeral_cases (P := fun n => n.size = point * 10 ^ k) ?_ ?_ ?_ ?_
  · intro hk _
    obtain ⟨n, rfl⟩ := Int.eq_ofNat_of_zero_le hk
    have hvalue : Decimal.value (Decimal.digits point ++ List.replicate n '0' ++ ['0']) =
        10 * (10 ^ n * point) := by
      rw [Decimal.value_append, Decimal.value_append, Decimal.value_digits,
        Nat.ofDigitChars_replicate_zero]
      rfl
    change (Decimal.value (Decimal.digits point ++ List.replicate n '0' ++ ['0']) : ℚ) *
      10 ^ (0 - (1 : Int)) = _
    rw [hvalue, zpow_natCast]
    push_cast
    ring
  · intro hk hleading _
    refine hsize ?_ ?_
    · rw [List.take_append_drop, Decimal.value_digits]
    · rw [Numeral.power, List.length_drop]
      omega
  · intro hleading
    refine hsize ?_ ?_
    · rw [Decimal.value_append, Nat.ofDigitChars_append, Nat.ofDigitChars_replicate_zero]
      exact Decimal.value_digits point
    · rw [Numeral.power, List.length_append, List.length_replicate]
      omega
  · refine hsize ?_ ?_
    · rw [List.take_append_drop, Decimal.value_digits]
    · rw [List.length_drop]
      by_cases hneg : leading point k < 0
      · rw [decide_eq_true hneg, Numeral.power, Decimal.value_digits]
        omega
      · rw [decide_eq_false hneg, Numeral.power, Decimal.value_digits]
        omega

/-- A whole part that is written out has sixteen digits at most. -/
theorem value_whole_numeral (hfrom : style.exponentFrom ≤ 16) (negative : Bool) (point : Nat)
    (k : Int) : Decimal.value (style.numeral negative point k).whole ≤ Numeral.maxSignificand := by
  have hdef : leading point k = k + (Decimal.digits point).length - 1 := rfl
  have hdigit : ∀ c ∈ Decimal.digits point, c.isDigit = true :=
    fun _ hc => Decimal.isDigit_of_mem_digits hc
  have hshort {ds : List Char} (hds : ∀ c ∈ ds, c.isDigit = true) (hlength : ds.length ≤ 16) :
      Decimal.value ds ≤ Numeral.maxSignificand := by
    have hlt := (Decimal.value_lt hds).trans_le (Nat.pow_le_pow_right (by decide) hlength)
    exact hlt.le.trans (by decide +kernel)
  refine numeral_cases (P := fun n => Decimal.value n.whole ≤ Numeral.maxSignificand) ?_ ?_ ?_ ?_
  · intro hk hlt
    refine hshort (List.forall_mem_append.mpr ⟨hdigit, fun c hc => ?_⟩) ?_
    · rw [List.eq_of_mem_replicate hc]
      rfl
    · rw [List.length_append, List.length_replicate]
      omega
  · intro _ hleading hlt
    refine hshort (fun c hc => hdigit c (List.mem_of_mem_take hc)) ?_
    rw [List.length_take]
    omega
  · intro _
    show Decimal.value ['0'] ≤ Numeral.maxSignificand
    decide
  · refine hshort (fun c hc => hdigit c (List.mem_of_mem_take hc)) ?_
    rw [List.length_take]
    omega

/-- A positive exponent is that of the leading digit, so that its power of ten is not above the
magnitude. -/
theorem ten_pow_le_size_numeral (hpoint : point ≠ 0) {ds : List Char}
    (hexponent : (style.numeral negative point k).exponent = some (false, ds)) :
    (10 : ℚ) ^ Decimal.value ds ≤ point * 10 ^ k := by
  have hdef : leading point k = k + (Decimal.digits point).length - 1 := rfl
  have hlength := length_digits_pos point
  revert hexponent
  refine numeral_cases (P := fun n => n.exponent = some (false, ds) →
    (10 : ℚ) ^ Decimal.value ds ≤ point * 10 ^ k) ?_ ?_ ?_ ?_
  · intro _ _ h
    cases h
  · intro _ _ _ h
    cases h
  · intro _ h
    cases h
  · intro h
    obtain ⟨hneg, rfl⟩ := Prod.mk.inj (Option.some.inj h)
    have hnonneg : 0 ≤ leading point k := by simpa using hneg
    have hten : (10 : ℚ) ^ ((Decimal.digits point).length - 1) ≤ point := by
      exact_mod_cast Decimal.ten_pow_length_le hpoint
    calc (10 : ℚ) ^ Decimal.value (Decimal.digits (leading point k).natAbs)
        = 10 ^ (((Decimal.digits point).length - 1 : Nat) : Int) * 10 ^ k := by
          rw [Decimal.value_digits, ← zpow_natCast, ← zpow_add₀ (by norm_num)]
          congr 1
          omega
      _ ≤ point * 10 ^ k := by
          rw [zpow_natCast]
          gcongr

/-- The parts of a decimal within the bound stand for a number. -/
theorem exists_number?_numeral (hfrom : style.exponentFrom ≤ 16) (hpoint : point ≠ 0)
    (hsafe : (point : ℚ) * 10 ^ k ≤ Numeral.safe) :
    ∃ x, (style.numeral negative point k).number? = some x := by
  refine Numeral.exists_number? (value_whole_numeral hfrom negative point k) ?_ ?_
  · intro ds hexponent
    have hlt : (10 : ℚ) ^ Decimal.value ds < ((10 ^ 309 : Nat) : ℚ) :=
      ((ten_pow_le_size_numeral hpoint hexponent).trans hsafe).trans_lt Numeral.safe_lt_ten_pow
    rw [Nat.cast_pow, Nat.cast_ofNat] at hlt
    have hvalue : Decimal.value ds < 309 := (pow_lt_pow_iff_right₀ (by norm_num)).mp hlt
    exact hvalue.le.trans (by decide)
  · rw [size_numeral]
    exact hsafe

end DecimalStyle

/-! ### Finite numbers -/

/-- The bounds of a finite magnitude. -/
theorem BinaryFormat.bounds_of_decode {f : BinaryFormat} {pattern significand : Nat}
    {exponent : Int} (hfull : 2 ≤ f.fullField) (hpattern : pattern < f.signBit)
    (h : f.decode pattern = .finite significand exponent) :
    significand < 2 * f.hidden ∧ f.minExponent ≤ exponent ∧ exponent ≤ f.maxExponent := by
  have hfraction := Nat.mod_lt pattern f.hidden_pos
  have hfield : pattern / f.hidden < f.fullField + 1 :=
    (Nat.div_lt_iff_lt_mul f.hidden_pos).mpr hpattern
  unfold decode at h
  unfold maxExponent
  dsimp only at h
  generalize pattern / f.hidden = field at hfield h
  generalize pattern % f.hidden = fraction at hfraction h
  split_ifs at h with hlast hzero hsubnormal
  · obtain ⟨rfl, rfl⟩ := Magnitude.finite.inj h
    omega
  · obtain ⟨rfl, rfl⟩ := Magnitude.finite.inj h
    omega

namespace Json

/-- The two largest magnitudes, whose decimals are read through by computation. -/
theorem shortest_largest :
    Decimal.shortest .double .even (2 ^ 53 - 1) 971 = (17976931348623157, 292) ∧
      Decimal.shortest .double .even (2 ^ 53 - 2) 971 = (17976931348623155, 292) := by
  decide +kernel

theorem isSome_number?_largest (negative : Bool) :
    (doubleStyle.numeral negative 17976931348623157 292).number?.isSome = true ∧
      (doubleStyle.numeral negative 17976931348623155 292).number?.isSome = true := by
  cases negative <;> decide +kernel

/-- The shortest decimal of any other number of double precision stands for a number. -/
theorem exists_number?_shortest {f : BinaryFormat} {style : DecimalStyle}
    (hfrom : style.exponentFrom ≤ 16) (negative : Bool) {significand : Nat} {exponent : Int}
    (hpos : 0 < significand) (hsmall : significand < 2 ^ 53) (hlow : -1074 ≤ exponent)
    (hhigh : exponent ≤ 971) (hlargest : exponent = 971 → significand ≤ 2 ^ 53 - 3)
    {point : Nat} {k : Int}
    (hshortest : Decimal.shortest f style.tie significand exponent = (point, k)) :
    point ≠ 0 ∧ ∃ x, (style.numeral negative point k).number? = some x := by
  obtain ⟨point', k', hshortest', hpoint, hvalue⟩ :=
    Decimal.exists_shortest f style.tie hpos hsmall hlow hhigh
  obtain ⟨rfl, rfl⟩ := Prod.mk.inj (hshortest'.symm.trans hshortest)
  exact ⟨hpoint.ne', DecimalStyle.exists_number?_numeral hfrom hpoint.ne'
    (hvalue.trans (Numeral.add_half_mul_le_safe hsmall hhigh hlargest))⟩

theorem exists_number?_double (negative : Bool) {significand : Nat} {exponent : Int}
    (hpos : 0 < significand) (hsmall : significand < 2 ^ 53) (hlow : -1074 ≤ exponent)
    (hhigh : exponent ≤ 971) {point : Nat} {k : Int}
    (hshortest : Decimal.shortest .double doubleStyle.tie significand exponent = (point, k)) :
    point ≠ 0 ∧ ∃ x, (doubleStyle.numeral negative point k).number? = some x := by
  by_cases hlargest : exponent = 971 → significand ≤ 2 ^ 53 - 3
  · exact exists_number?_shortest (by decide) negative hpos hsmall hlow hhigh hlargest hshortest
  · obtain ⟨rfl, hlarge⟩ := Classical.not_imp.mp hlargest
    have htwo : significand = 2 ^ 53 - 1 ∨ significand = 2 ^ 53 - 2 := by omega
    rcases htwo with rfl | rfl
    · obtain ⟨rfl, rfl⟩ := Prod.mk.inj (hshortest.symm.trans shortest_largest.1)
      exact ⟨by decide, Option.isSome_iff_exists.mp (isSome_number?_largest negative).1⟩
    · obtain ⟨rfl, rfl⟩ := Prod.mk.inj (hshortest.symm.trans shortest_largest.2)
      exact ⟨by decide, Option.isSome_iff_exists.mp (isSome_number?_largest negative).2⟩

/-- Zero is read as a number, with either sign. -/
theorem isSome_number?_zero (negative : Bool) :
    (⟨negative, ['0'], ['0'], none⟩ : Numeral).number?.isSome = true := by
  cases negative <;> decide +kernel

/-- What is written of a finite magnitude is a numeral that stands for a number, if its shortest
decimal does. -/
theorem exists_numeral_write {f : BinaryFormat} {style : DecimalStyle} (hplus : style.plus = "+")
    (negative : Bool) {significand : Nat} {exponent : Int}
    (hread : 0 < significand → ∀ point k,
      Decimal.shortest f style.tie significand exponent = (point, k) →
        point ≠ 0 ∧ ∃ x, (style.numeral negative point k).number? = some x) :
    ∃ (n : Numeral) (x : JsonNumber),
      (style.write f negative (.finite significand exponent)).toList = n.text ∧
      n.WellFormed ∧ n.number? = some x := by
  have hsign : (if negative then "-" else "").toList = if negative then ['-'] else [] := by
    cases negative <;> rfl
  rcases Nat.eq_zero_or_pos significand with rfl | hpos
  · obtain ⟨x, hx⟩ := Option.isSome_iff_exists.mp (isSome_number?_zero negative)
    have hzero : ∀ c ∈ ['0'], c.isDigit = true := List.forall_mem_singleton.mpr rfl
    refine ⟨⟨negative, ['0'], ['0'], none⟩, x, ?_,
      ⟨List.cons_ne_nil _ _, hzero, .inl rfl, hzero, fun _ _ h => by cases h⟩, hx⟩
    rw [DecimalStyle.write]
    dsimp only
    rw [if_pos rfl, String.toList_append, hsign]
    cases negative <;> rfl
  · cases hshortest : Decimal.shortest f style.tie significand exponent with
    | mk point k =>
        obtain ⟨hpoint, x, hx⟩ := hread hpos point k hshortest
        refine ⟨style.numeral negative point k, x, ?_,
          DecimalStyle.wellFormed_numeral style negative hpoint k, hx⟩
        rw [DecimalStyle.write]
        dsimp only
        rw [if_neg hpos.ne', hshortest]
        dsimp only
        rw [String.toList_append, hsign, DecimalStyle.toList_layOut hplus,
          ← DecimalStyle.text_numeral]

/-- A numeral in a text is read as its number. -/
theorem readValue_text {n : Numeral} {x : JsonNumber} {rest : List Char} {fuel depth : Nat}
    (hn : n.WellFormed) (hx : n.number? = some x) (hfuel : 0 < fuel) (hrest : EndsNumeral rest) :
    readValue fuel depth (n.text ++ rest) = some (.number x, rest) := by
  have hnumber : readNumber (n.text ++ rest) = some (.number x, rest) := by
    rw [readNumber, Numeral.scan_text hn hrest]
    simp [hx]
  obtain ⟨c, tail, htext, hc⟩ := Numeral.exists_cons_text hn
  rw [htext, List.cons_append] at hnumber ⊢
  rw [readValue_number hfuel hc, hnumber]

/-- What is written of a finite magnitude is read as a number, if its shortest decimal stands for
one. -/
theorem exists_readValue_write {f : BinaryFormat} {style : DecimalStyle} (hplus : style.plus = "+")
    (negative : Bool) {significand : Nat} {exponent : Int}
    (hread : 0 < significand → ∀ point k,
      Decimal.shortest f style.tie significand exponent = (point, k) →
        point ≠ 0 ∧ ∃ x, (style.numeral negative point k).number? = some x) :
    ∃ number, ∀ (fuel depth : Nat) (rest : List Char), 0 < fuel → EndsNumeral rest →
      readValue fuel depth
          ((style.write f negative (.finite significand exponent)).toList ++ rest) =
        some (.number number, rest) := by
  obtain ⟨n, number, htext, hn, hnumber⟩ := exists_numeral_write hplus negative hread
  refine ⟨number, fun fuel depth rest hfuel hrest => ?_⟩
  rw [htext]
  exact readValue_text hn hnumber hfuel hrest

/-- **A finite double precision number is read as a number.** -/
theorem exists_readValue_double {x : Binary64} {significand : Nat} {exponent : Int}
    (h : x.magnitude = .finite significand exponent) :
    ∃ number, ∀ (fuel depth : Nat) (rest : List Char), 0 < fuel → EndsNumeral rest →
      readValue fuel depth ((x.write doubleStyle).toList ++ rest) =
        some (.number number, rest) := by
  have hhidden : 2 * BinaryFormat.double.hidden = 2 ^ 53 := by decide
  have hmin : BinaryFormat.double.minExponent = -1074 := rfl
  have hmax : BinaryFormat.double.maxExponent = 971 := by decide
  have hbounds := BinaryFormat.bounds_of_decode (by decide) (Nat.mod_lt _ (by decide)) h
  rw [hhidden, hmin, hmax] at hbounds
  obtain ⟨hsmall, hlow, hhigh⟩ := hbounds
  rw [Binary64.write, h]
  exact exists_readValue_write rfl x.negative fun hpos point k hshortest =>
    exists_number?_double x.negative hpos hsmall hlow hhigh hshortest

/-- **A finite single precision number is read as a number.** -/
theorem exists_readValue_single {x : Binary32} {significand : Nat} {exponent : Int}
    (h : x.magnitude = .finite significand exponent) :
    ∃ number, ∀ (fuel depth : Nat) (rest : List Char), 0 < fuel → EndsNumeral rest →
      readValue fuel depth ((x.write singleStyle).toList ++ rest) =
        some (.number number, rest) := by
  have hhidden : 2 * BinaryFormat.single.hidden = 2 ^ 24 := by decide
  have hmin : BinaryFormat.single.minExponent = -149 := rfl
  have hmax : BinaryFormat.single.maxExponent = 104 := by decide
  have hbounds := BinaryFormat.bounds_of_decode (by decide) (Nat.mod_lt _ (by decide)) h
  rw [hhidden, hmin, hmax] at hbounds
  obtain ⟨hsmall, hlow, hhigh⟩ := hbounds
  rw [Binary32.write, h]
  exact exists_readValue_write rfl x.negative fun hpos point k hshortest =>
    exists_number?_shortest (by decide) x.negative hpos (by omega) (by omega) (by omega) (by omega)
      hshortest

end Json

end RowMapper
