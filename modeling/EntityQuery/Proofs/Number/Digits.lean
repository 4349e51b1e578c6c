import Mathlib.Tactic.SplitIfs
import EntityQuery.Proofs.Number.Rounding

/-!
# Seventeen digits suffice

The interval of a double is wider than a unit in the seventeenth digit of the double, so a
decimal with at most so many digits lies in it and the search for the shortest one ends at
one of its grids.

## Main statements

- `decimalExponent_bounds` — the decimal exponent of a ratio
- `Double.lt_width` — how wide the interval of a double is
- `Double.exists_onGrid?_shortest` — the shortest decimal is found on a grid
- `Double.coefficient_bounds`, `Double.first_bounds` — how large its digits and its exponent are
-/

namespace EntityQuery

theorem exists_length_toDigits {n : ℕ} (hn : n ≠ 0) :
    ∃ i, (Nat.toDigits 10 n).length = i + 1 ∧ 10 ^ i ≤ n ∧ n < 10 ^ (i + 1) := by
  have hpos : 0 < (Nat.toDigits 10 n).length := Nat.length_toDigits_pos
  obtain ⟨i, hi⟩ : ∃ i, (Nat.toDigits 10 n).length = i + 1 := Nat.exists_eq_add_of_le' hpos
  refine ⟨i, hi, ?_, (Nat.length_toDigits_le_iff (by norm_num) (Nat.succ_pos i)).1 hi.le⟩
  rcases Nat.eq_zero_or_pos i with rfl | hipos
  · exact Nat.one_le_iff_ne_zero.2 hn
  · refine not_lt.1 fun hlt => ?_
    have hle := (Nat.length_toDigits_le_iff (by norm_num) hipos).2 hlt
    omega

theorem decimalExponent_bounds {num den : ℕ} (hnum : num ≠ 0) (hden : den ≠ 0) :
    (10 : ℚ) ^ decimalExponent num den ≤ num / den ∧
      (num : ℚ) / den < 10 ^ (decimalExponent num den + 1) := by
  have hnum' : 0 < num := Nat.pos_of_ne_zero hnum
  have hden' : 0 < den := Nat.pos_of_ne_zero hden
  have hpos : (0 : ℚ) < den := by exact_mod_cast hden'
  rw [decimalExponent]
  split
  · rename_i hle
    obtain ⟨i, hi, hlow, hhigh⟩ := exists_length_toDigits (Nat.div_pos hle hden').ne'
    rw [Nat.le_div_iff_mul_le hden'] at hlow
    rw [Nat.div_lt_iff_lt_mul hden'] at hhigh
    rw [hi, le_div_iff₀ hpos, div_lt_iff₀ hpos, Nat.cast_succ, add_sub_cancel_right]
    exact ⟨by exact_mod_cast hlow, by exact_mod_cast hhigh⟩
  · rename_i hlt
    obtain ⟨i, hi, hlow, hhigh⟩ :=
      exists_length_toDigits (Nat.div_pos (by omega : num ≤ den - 1) hnum').ne'
    rw [Nat.le_div_iff_mul_le hnum'] at hlow
    rw [Nat.div_lt_iff_lt_mul hnum'] at hhigh
    have hexponent : -((i + 1 : ℕ) : ℤ) + 1 = -(i : ℤ) := by
      push_cast
      ring
    have hlow' : den ≤ 10 ^ (i + 1) * num := by omega
    have hhigh' : 10 ^ i * num < den := by omega
    rw [hi, hexponent, le_div_iff₀ hpos, div_lt_iff₀ hpos, zpow_neg, zpow_neg, zpow_natCast,
      zpow_natCast, inv_mul_le_iff₀ (by positivity), lt_inv_mul_iff₀ (by positivity)]
    exact ⟨by exact_mod_cast hlow', by exact_mod_cast hhigh'⟩

namespace Double

variable {x : Double} {n : ℕ}

theorem abs_eq_ratio : x.abs = (x.numerator : ℚ) / x.denominator := by
  have hpow := Interval.pow_mul_pow_neg (b := 2) (by norm_num) x.exponent
  have hnum : (x.numerator : ℚ) = x.significand * 2 ^ x.exponent.toNat := by
    rw [numerator, Nat.pow_eq]
    push_cast
    rfl
  have hden : (x.denominator : ℚ) = 2 ^ (-x.exponent).toNat := by
    rw [denominator, Nat.pow_eq]
    push_cast
    rfl
  rw [abs, hnum, hden, ← hpow]
  field_simp

/-- The interval of a double is wider than a unit in its seventeenth digit. -/
theorem lt_width (hn : n ≠ 0) : valueAt n < 10 ^ 16 * (midpoint n - midpoint (n - 1)) := by
  have hadd : n - 1 + 1 = n := by omega
  have hpred := valueAt_succ (n - 1)
  rw [hadd] at hpred
  have hwidth : midpoint n - midpoint (n - 1) =
      (2 ^ ((binade n : ℤ) - 1074) + 2 ^ ((binade (n - 1) : ℤ) - 1074)) / 2 := by
    rw [midpoint_eq, midpoint_eq, hpred]
    ring
  rw [hwidth, valueAt]
  have hcases : binade (n - 1) = binade n ∧ n - binade n * 2 ^ 52 < 2 ^ 53 ∨
      binade n = binade (n - 1) + 1 ∧ n - binade n * 2 ^ 52 = 2 ^ 52 := by
    simp only [binade]
    omega
  have hunit : (0 : ℚ) < 2 ^ ((binade (n - 1) : ℤ) - 1074) := by positivity
  rcases hcases with ⟨hsame, hlt⟩ | ⟨hnext, hfirst⟩
  · have hsignificand : ((n - binade n * 2 ^ 52 : ℕ) : ℚ) < 2 ^ 53 := by exact_mod_cast hlt
    rw [← hsame] at hsignificand ⊢
    generalize (2 : ℚ) ^ ((binade (n - 1) : ℤ) - 1074) = u at hunit ⊢
    refine (mul_lt_mul_of_pos_right hsignificand hunit).trans ?_
    linarith
  · -- Below a power of two the neighbour is only half as far away.
    have hexponent : (binade n : ℤ) - 1074 = ((binade (n - 1) : ℤ) - 1074) + 1 := by
      rw [hnext]
      push_cast
      ring
    rw [hfirst, hexponent, zpow_add_one₀ (by norm_num)]
    push_cast
    linarith

/-- The double lies between the points of a grid that the search looks at. -/
theorem gridPoint_bounds (x : Double) {place : ℤ} {c : ℕ}
    (hc : c = x.interval.value * x.interval.unitWeight place / x.interval.stepWeight place) :
    (c : ℚ) * 10 ^ place ≤ valueAt x.magnitude ∧
      valueAt x.magnitude < ((c + 1 : ℕ) : ℚ) * 10 ^ place := by
  have hstep : 0 < x.interval.stepWeight place := by
    rw [Interval.stepWeight, Nat.pow_eq, Nat.pow_eq]
    positivity
  have hvalue : (x.interval.value : ℚ) * 2 ^ x.interval.scale = valueAt x.magnitude := by
    rw [← abs_eq_valueAt, abs]
    show ((4 * x.significand : ℕ) : ℚ) * 2 ^ (x.exponent - 2) = _
    rw [zpow_sub₀ (by norm_num)]
    push_cast
    ring
  rw [← hvalue]
  constructor
  · rw [← (x.interval.le_iff place _ c).2, hc]
    exact Nat.div_mul_le_self _ _
  · rw [← not_le, ← (x.interval.le_iff place _ (c + 1)).2, not_le, hc]
    exact (Nat.div_lt_iff_lt_mul hstep).1 (Nat.lt_succ_self _)

theorem isSome_onGrid?_of_contains {i : Interval} (tie : Tie) {place : ℤ} {c : ℕ}
    (hc : c = i.value * i.unitWeight place / i.stepWeight place)
    (h : i.contains c place = true ∨ i.contains (c + 1) place = true) :
    (i.onGrid? tie place).isSome = true := by
  unfold Interval.onGrid?
  simp only [← hc]
  cases hfirst : i.contains c place with
  | false =>
    have hsecond : i.contains (c + 1) place = true := h.resolve_left (by simp [hfirst])
    rw [hsecond]
    rfl
  | true =>
    cases i.contains (c + 1) place with
    | false => rfl
    | true => cases tie <;> (dsimp only; split_ifs <;> rfl)

/-- A grid that is finer than the interval has a point in it, next to the double. -/
theorem isSome_onGrid? (tie : Tie) (hx : x.magnitude ≠ 0) {place : ℤ}
    (h : (10 : ℚ) ^ place < midpoint x.magnitude - midpoint (x.magnitude - 1)) :
    (x.interval.onGrid? tie place).isSome = true := by
  obtain ⟨c, hc⟩ : ∃ c, c = x.interval.value * x.interval.unitWeight place /
    x.interval.stepWeight place := ⟨_, rfl⟩
  obtain ⟨hle, hlt⟩ := gridPoint_bounds x hc
  have hlow := midpoint_lt_valueAt (x.magnitude - 1)
  rw [Nat.sub_add_cancel (Nat.one_le_iff_ne_zero.2 hx)] at hlow
  have hhigh := valueAt_lt_midpoint x.magnitude
  -- If both points lay outside, the interval would be no wider than the grid.
  refine isSome_onGrid?_of_contains tie hc ?_
  by_cases hbelow : midpoint (x.magnitude - 1) < c * 10 ^ place
  · exact .inl ((contains_interval_iff hx ⟨c, place⟩).2
      ⟨.inl hbelow, .inl (hle.trans_lt hhigh)⟩)
  · refine .inr ((contains_interval_iff hx ⟨c + 1, place⟩).2 ⟨.inl (hlow.trans hlt), .inl ?_⟩)
    show ((c + 1 : ℕ) : ℚ) * 10 ^ place < _
    push_cast
    linarith

theorem exponent_of_onGrid? {i : Interval} {tie : Tie} {place : ℤ} {d : Decimal}
    (h : i.onGrid? tie place = some d) : d.exponent = place := by
  unfold Interval.onGrid? at h
  dsimp only at h
  grind

theorem valueAt_pos (hn : n ≠ 0) : 0 < valueAt n :=
  valueAt_zero ▸ valueAt_strictMono (Nat.pos_of_ne_zero hn)

theorem denominator_pos : 0 < x.denominator := by
  rw [denominator, Nat.pow_eq]
  positivity

theorem denominator_ne_zero : x.denominator ≠ 0 :=
  denominator_pos.ne'

theorem numerator_ne_zero (hx : x.magnitude ≠ 0) : x.numerator ≠ 0 := by
  intro hzero
  have hpos := valueAt_pos hx
  rw [← abs_eq_valueAt, abs_eq_ratio, hzero] at hpos
  simp at hpos

theorem leading_bounds (hx : x.magnitude ≠ 0) :
    (10 : ℚ) ^ decimalExponent x.numerator x.denominator ≤ valueAt x.magnitude ∧
      valueAt x.magnitude < 10 ^ (decimalExponent x.numerator x.denominator + 1) := by
  rw [← abs_eq_valueAt, abs_eq_ratio]
  exact decimalExponent_bounds (numerator_ne_zero hx) denominator_ne_zero

/-- The shortest decimal is found on a grid, at the latest on that of seventeen digits. -/
theorem exists_onGrid?_shortest (tie : Tie) (hx : x.magnitude ≠ 0) :
    x.interval.onGrid? tie (x.shortest tie).exponent = some (x.shortest tie) ∧
      decimalExponent x.numerator x.denominator - 16 ≤ (x.shortest tie).exponent := by
  obtain ⟨leading, hleading⟩ : ∃ leading, leading = decimalExponent x.numerator x.denominator :=
    ⟨_, rfl⟩
  have hgrid : (x.interval.onGrid? tie (leading + 1 - 17)).isSome = true := by
    refine isSome_onGrid? tie hx ?_
    have hlow := (leading_bounds hx).1
    have hwidth := lt_width hx
    have hpow : (10 : ℚ) ^ leading = 10 ^ 16 * 10 ^ (leading + 1 - 17) := by
      rw [← zpow_natCast, ← zpow_add₀ (by norm_num)]
      congr 1
      push_cast
      ring
    rw [← hleading, hpow] at hlow
    linarith
  have hsome : (((List.range 18).map fun (digits : ℕ) => leading + 1 - (digits : ℤ)).findSome?
      fun place => x.interval.onGrid? tie place).isSome = true := by
    rw [List.findSome?_isSome_iff]
    exact ⟨_, List.mem_map.2 ⟨17, by simp, rfl⟩, hgrid⟩
  obtain ⟨d, hd⟩ := Option.isSome_iff_exists.1 hsome
  have hshortest : x.shortest tie = d := by
    rw [shortest]
    simp only [← hleading, hd, Option.getD_some]
  obtain ⟨place, hplace, hfound⟩ := List.exists_of_findSome?_eq_some hd
  obtain ⟨digits, hdigits, rfl⟩ := List.mem_map.1 hplace
  have hexponent := exponent_of_onGrid? hfound
  rw [List.mem_range] at hdigits
  rw [hshortest, hexponent, ← hleading]
  exact ⟨hfound, by omega⟩

theorem midpoint_le (hn : n ≠ 0) : midpoint n ≤ 2 * valueAt n := by
  have hone : 1 ≤ n - binade n * 2 ^ 52 := by
    rw [binade]
    omega
  have hunit : (0 : ℚ) < 2 ^ ((binade n : ℤ) - 1074) := by positivity
  have hle : 1 * 2 ^ ((binade n : ℤ) - 1074) ≤ valueAt n :=
    mul_le_mul_of_nonneg_right (by exact_mod_cast hone) hunit.le
  rw [midpoint_eq]
  linarith

/-- The digits of a double are a natural number other than zero, and not too great. -/
theorem coefficient_bounds (tie : Tie) (hx : x.magnitude ≠ 0) :
    (x.shortest tie).coefficient ≠ 0 ∧ (x.shortest tie).coefficient < 2 * 10 ^ 17 := by
  have hround := roundsTo_shortest tie hx
  constructor
  · intro hzero
    have hpos := hround.pos
    rw [Decimal.value, hzero] at hpos
    simp at hpos
  · obtain ⟨-, hexponent⟩ := exists_onGrid?_shortest tie hx
    have hunit : (0 : ℚ) < 10 ^ (x.shortest tie).exponent := by positivity
    have hlt : ((x.shortest tie).coefficient : ℚ) * 10 ^ (x.shortest tie).exponent <
        (2 * 10 ^ 17) * 10 ^ (x.shortest tie).exponent :=
      calc ((x.shortest tie).coefficient : ℚ) * 10 ^ (x.shortest tie).exponent
          ≤ midpoint x.magnitude := hround.le.2
        _ ≤ 2 * valueAt x.magnitude := midpoint_le hx
        _ < 2 * 10 ^ (decimalExponent x.numerator x.denominator + 1) := by
          linarith [(leading_bounds hx).2]
        _ ≤ 2 * 10 ^ ((x.shortest tie).exponent + 17) :=
          mul_le_mul_of_nonneg_left (zpow_le_zpow_right₀ (by norm_num) (by omega)) (by norm_num)
        _ = (2 * 10 ^ 17) * 10 ^ (x.shortest tie).exponent := by
          rw [zpow_add₀ (by norm_num)]
          norm_num
          ring
    exact_mod_cast lt_of_mul_lt_mul_right hlt hunit.le

theorem two_pow_lt_ten_pow : (2 : ℚ) ^ 1075 < 10 ^ 400 := by
  have hpow : ((2 : ℚ) ^ 43) ^ 25 < (10 ^ 16) ^ 25 :=
    pow_lt_pow_left₀ (by norm_num) (by norm_num) (by norm_num)
  rwa [← pow_mul, ← pow_mul] at hpow

theorem midpoint_zero : midpoint 0 = (2 ^ 1075)⁻¹ := by
  have hzero : binade 0 = 0 := rfl
  rw [midpoint_eq, valueAt_zero, hzero, zero_add, div_eq_mul_inv, ← zpow_sub_one₀ (by norm_num),
    ← zpow_natCast, ← zpow_neg]
  rfl

theorem valueAt_infinity : valueAt infinityMagnitude = 2 ^ 1024 := by
  have hinfinity : infinityMagnitude = 2046 * 2 ^ 52 + 2 ^ 52 := rfl
  rw [hinfinity, valueAt_of_significand (.inr le_rfl) (by norm_num), Nat.cast_pow, ← zpow_natCast,
    Nat.cast_two, ← zpow_add₀ (by norm_num), ← zpow_natCast]
  rfl

theorem first_bounds (tie : Tie) (hx : x.magnitude ≠ 0) (hfinite : x.isFinite = true) {k : ℕ}
    (hlow : 10 ^ k ≤ (x.shortest tie).coefficient)
    (hhigh : (x.shortest tie).coefficient < 10 ^ (k + 1)) :
    -400 ≤ (x.shortest tie).exponent + k ∧ (x.shortest tie).exponent + k ≤ 400 := by
  have hround := roundsTo_shortest tie hx
  have hunit : (0 : ℚ) < 10 ^ (x.shortest tie).exponent := by positivity
  have hshift : ∀ i : ℕ, ((10 ^ i : ℕ) : ℚ) * 10 ^ (x.shortest tie).exponent =
      10 ^ ((x.shortest tie).exponent + i) := by
    intro i
    rw [zpow_add₀ (by norm_num), zpow_natCast, mul_comm]
    push_cast
    rfl
  constructor
  · have hleast : (10 : ℚ) ^ (-400 : ℤ) < 10 ^ ((x.shortest tie).exponent + (k + 1 : ℕ)) :=
      calc (10 : ℚ) ^ (-400 : ℤ) = (10 ^ 400)⁻¹ := zpow_neg _ _
        _ < midpoint 0 := by
          rw [midpoint_zero, inv_lt_inv₀ (by positivity) (by positivity)]
          exact two_pow_lt_ten_pow
        _ ≤ midpoint (x.magnitude - 1) := midpoint_strictMono.monotone (Nat.zero_le _)
        _ ≤ (x.shortest tie).coefficient * 10 ^ (x.shortest tie).exponent := hround.le.1
        _ ≤ ((10 ^ (k + 1) : ℕ) : ℚ) * 10 ^ (x.shortest tie).exponent := by gcongr
        _ = 10 ^ ((x.shortest tie).exponent + (k + 1 : ℕ)) := hshift _
    have hlt := (zpow_lt_zpow_iff_right₀ (by norm_num)).1 hleast
    omega
  · have hgreatest : (10 : ℚ) ^ ((x.shortest tie).exponent + k) < 10 ^ (400 : ℤ) :=
      calc (10 : ℚ) ^ ((x.shortest tie).exponent + k)
          = ((10 ^ k : ℕ) : ℚ) * 10 ^ (x.shortest tie).exponent := (hshift k).symm
        _ ≤ (x.shortest tie).coefficient * 10 ^ (x.shortest tie).exponent := by gcongr
        _ ≤ midpoint x.magnitude := hround.le.2
        _ < valueAt (x.magnitude + 1) := midpoint_lt_valueAt _
        _ ≤ valueAt infinityMagnitude :=
          valueAt_strictMono.monotone (Nat.succ_le_of_lt (of_decide_eq_true hfinite))
        _ ≤ 2 ^ 1075 := by
          rw [valueAt_infinity]
          exact pow_le_pow_right₀ (by norm_num) (by norm_num)
        _ < 10 ^ 400 := two_pow_lt_ten_pow
        _ = 10 ^ (400 : ℤ) := (zpow_natCast _ _).symm
    exact ((zpow_lt_zpow_iff_right₀ (by norm_num)).1 hgreatest).le

end Double

end EntityQuery
