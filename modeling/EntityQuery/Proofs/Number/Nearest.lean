import EntityQuery.Number.Shortest
import EntityQuery.Proofs.Number.Magnitude

/-!
# The shortest decimal rounds to its double

The interval of a double, from which its digits are taken, holds the numbers that
round to it. Whichever grid the digits are found on, and whichever way a tie goes,
they therefore stand for a number that no other double is read from.

## Main definitions

- `Decimal.value` — the number that a decimal stands for

## Main statements

- `Double.Interval.contains_iff` — the interval of a double in rational numbers
- `Double.roundsTo_shortest` — the shortest decimal rounds to its double
-/

namespace EntityQuery

/-- The number that a decimal stands for. -/
def Decimal.value (d : Decimal) : ℚ :=
  d.coefficient * 10 ^ d.exponent

namespace Double

namespace Interval

variable {i : Interval}

/-- A weight is a power as far as its exponent is positive. -/
theorem pow_mul_pow_neg {b : ℚ} (hb : b ≠ 0) (e : ℤ) : b ^ e * b ^ (-e).toNat = b ^ e.toNat := by
  rw [← zpow_natCast, ← zpow_natCast, ← zpow_add₀ hb]
  congr 1
  omega

/-- The unit that interval and grid are both measured in. -/
def commonUnit (i : Interval) (place : ℤ) : ℚ :=
  2 ^ (-i.scale).toNat * 10 ^ (-place).toNat

theorem commonUnit_pos (i : Interval) (place : ℤ) : 0 < i.commonUnit place := by
  rw [commonUnit]
  positivity

theorem cast_unitWeight (i : Interval) (place : ℤ) (k : ℕ) :
    ((k * i.unitWeight place : ℕ) : ℚ) = k * 2 ^ i.scale * i.commonUnit place := by
  have hscale := pow_mul_pow_neg (b := 2) (by norm_num) i.scale
  rw [unitWeight, commonUnit]
  simp only [Nat.pow_eq]
  push_cast
  rw [← hscale]
  ring

theorem cast_stepWeight (i : Interval) (place : ℤ) (k : ℕ) :
    ((k * i.stepWeight place : ℕ) : ℚ) = k * 10 ^ place * i.commonUnit place := by
  have hplace := pow_mul_pow_neg (b := 10) (by norm_num) place
  rw [stepWeight, commonUnit]
  simp only [Nat.pow_eq]
  push_cast
  rw [← hplace]
  ring

/-- Measured in the common unit, comparing naturals compares rational numbers. -/
theorem le_iff (i : Interval) (place : ℤ) (k c : ℕ) :
    (k * i.unitWeight place ≤ c * i.stepWeight place ↔ (k : ℚ) * 2 ^ i.scale ≤ c * 10 ^ place) ∧
      (c * i.stepWeight place ≤ k * i.unitWeight place ↔
        (c : ℚ) * 10 ^ place ≤ k * 2 ^ i.scale) := by
  have hunit := i.commonUnit_pos place
  constructor
  · rw [← Nat.cast_le (α := ℚ), cast_unitWeight, cast_stepWeight, mul_le_mul_iff_left₀ hunit]
  · rw [← Nat.cast_le (α := ℚ), cast_unitWeight, cast_stepWeight, mul_le_mul_iff_left₀ hunit]

/-- The decimals in an interval are those between its ends, which belong to it if it
  is closed. -/
theorem contains_iff (i : Interval) (c : ℕ) (place : ℤ) :
    i.contains c place = true ↔
      ((i.low : ℚ) * 2 ^ i.scale < c * 10 ^ place ∨
        i.closed = true ∧ (i.low : ℚ) * 2 ^ i.scale = c * 10 ^ place) ∧
      ((c : ℚ) * 10 ^ place < i.high * 2 ^ i.scale ∨
        i.closed = true ∧ (c : ℚ) * 10 ^ place = i.high * 2 ^ i.scale) := by
  have hlow := i.le_iff place i.low c
  have hhigh := i.le_iff place i.high c
  rw [contains]
  by_cases hclosed : i.closed = true
  · rw [if_pos hclosed]
    simp only [Bool.and_eq_true, decide_eq_true_eq, hlow.1, hhigh.2, hclosed, true_and,
      le_iff_lt_or_eq]
  · rw [if_neg hclosed]
    simp only [Bool.and_eq_true, decide_eq_true_eq, ← not_le, hlow.2, hhigh.1, hclosed,
      Bool.false_eq_true, false_and, or_false]

/-- A decimal that is found on a grid lies in the interval. -/
theorem contains_of_onGrid? {tie : Tie} {place : ℤ} {d : Decimal}
    (h : i.onGrid? tie place = some d) : i.contains d.coefficient d.exponent = true := by
  unfold onGrid? at h
  dsimp only at h
  split at h
  · cases h
  · rename_i hc _
    cases h
    exact hc
  · rename_i _ hc
    cases h
    exact hc
  · -- Both neighbours lie in the interval, so it does not matter which one is taken.
    rename_i hc hsucc
    split at h
    · cases h
      exact hc
    · split at h
      · cases h
        exact hsucc
      · cases tie with
        | up =>
          cases h
          exact hsucc
        | even =>
          cases h
          rcases Nat.mod_two_eq_zero_or_one
            (i.value * i.unitWeight place / i.stepWeight place) with hmod | hmod
          · simpa [hmod] using hc
          · simpa [hmod] using hsucc

end Interval

variable {x : Double}

/-- The interval of a double ends at the midpoints to its neighbours. -/
theorem interval_ends (hx : x.magnitude ≠ 0) :
    (x.interval.low : ℚ) * 2 ^ x.interval.scale = midpoint (x.magnitude - 1) ∧
      (x.interval.high : ℚ) * 2 ^ x.interval.scale = midpoint x.magnitude ∧
      (x.interval.closed = true ↔ x.magnitude % 2 = 0) := by
  have hvalue : (x.significand : ℚ) * 2 ^ x.exponent = valueAt x.magnitude := abs_eq_valueAt
  have hquarter : (2 : ℚ) ^ x.exponent = 4 * 2 ^ (x.exponent - 2) := by
    rw [zpow_sub₀ (by norm_num)]
    norm_num
    ring
  have hle : binade x.magnitude * 2 ^ 52 ≤ x.magnitude := by
    rw [binade]
    omega
  have hsignificand := significand_eq (x := x)
  have hpos : 1 ≤ x.significand := by
    rw [binade] at hsignificand
    omega
  refine ⟨?_, ?_, ?_⟩
  · have hpow : Nat.pow 2 52 = 2 ^ 52 := rfl
    have hpred : x.magnitude - 1 + 1 = x.magnitude := by omega
    have hmidpoint : midpoint (x.magnitude - 1) =
        valueAt x.magnitude - 2 ^ ((binade (x.magnitude - 1) : ℤ) - 1074) / 2 := by
      have hstep := valueAt_succ (x.magnitude - 1)
      rw [hpred] at hstep
      rw [midpoint_eq, hstep]
      ring
    rw [hmidpoint, ← hvalue]
    show ((if x.fraction = 0 ∧ 1 < x.exponentField then 4 * x.significand - 1
      else 4 * x.significand - 2 : ℕ) : ℚ) * 2 ^ (x.exponent - 2) = _
    rw [fraction, exponentField, hpow]
    split
    · -- Below a power of two the unit is half as large.
      have hbinade : ((binade (x.magnitude - 1) : ℕ) : ℤ) - 1074 = x.exponent - 2 + 1 := by
        rw [exponent_eq, binade, binade]
        omega
      rw [hbinade, hquarter, zpow_add_one₀ (by norm_num), Nat.cast_sub (by omega)]
      push_cast
      ring
    · have hbinade : ((binade (x.magnitude - 1) : ℕ) : ℤ) - 1074 = x.exponent := by
        rw [exponent_eq, binade, binade]
        omega
      rw [hbinade, hquarter, Nat.cast_sub (by omega)]
      push_cast
      ring
  · rw [midpoint_eq, ← hvalue, ← exponent_eq]
    show ((4 * x.significand + 2 : ℕ) : ℚ) * 2 ^ (x.exponent - 2) = _
    rw [hquarter]
    push_cast
    ring
  · show (x.significand % 2 == 0) = true ↔ _
    rw [beq_iff_eq]
    omega

theorem contains_interval_iff (hx : x.magnitude ≠ 0) (d : Decimal) :
    x.interval.contains d.coefficient d.exponent = true ↔ RoundsTo d.value x.magnitude := by
  obtain ⟨hlow, hhigh, hclosed⟩ := interval_ends hx
  rw [Interval.contains_iff, hlow, hhigh, hclosed]
  exact Iff.rfl

/-- The decimal written out in full is the double itself. -/
theorem value_exactDecimal : x.exactDecimal.value = x.abs := by
  show ((x.significand * Nat.pow 2 x.exponent.toNat * Nat.pow 5 (-x.exponent).toNat : ℕ) : ℚ) *
    10 ^ min x.exponent 0 = _
  rw [abs]
  simp only [Nat.pow_eq]
  push_cast
  by_cases hexponent : 0 ≤ x.exponent
  · obtain ⟨k, hk⟩ := Int.eq_ofNat_of_zero_le hexponent
    simp [hk]
  · obtain ⟨k, hk⟩ : ∃ k : ℕ, x.exponent = -(k : ℤ) := ⟨(-x.exponent).toNat, by omega⟩
    have hmin : min (-(k : ℤ)) 0 = -(k : ℤ) := by omega
    have hten : (10 : ℚ) ^ k = 2 ^ k * 5 ^ k := by
      rw [← mul_pow]
      norm_num
    simp only [hk, hmin, Int.toNat_neg_natCast, neg_neg, Int.toNat_natCast, pow_zero, mul_one,
      zpow_neg, zpow_natCast, hten]
    field_simp

/-- The shortest decimal rounds to the double it was taken from. -/
theorem roundsTo_shortest (tie : Tie) (hx : x.magnitude ≠ 0) :
    RoundsTo (x.shortest tie).value x.magnitude := by
  rw [shortest]
  cases hfound : List.findSome? _ _ with
  | none =>
    show RoundsTo x.exactDecimal.value x.magnitude
    rw [value_exactDecimal, abs_eq_valueAt]
    exact roundsTo_valueAt hx
  | some d =>
    obtain ⟨place, -, hplace⟩ := List.exists_of_findSome?_eq_some hfound
    exact (contains_interval_iff hx d).1 (Interval.contains_of_onGrid? hplace)

end Double

end EntityQuery
