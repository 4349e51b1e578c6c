import Mathlib.Algebra.Order.Field.Power
import Mathlib.Tactic.FieldSimp
import Mathlib.Tactic.Linarith
import Mathlib.Tactic.NormNum
import Mathlib.Tactic.Positivity
import Mathlib.Tactic.Ring
import EntityQuery.Number.Double

/-!
# Doubles as rational numbers

The magnitudes of the format in increasing order, as rational numbers. From one
magnitude to the next it is one unit of the significand, also where the exponent
grows, so the midpoints between neighbours divide the positive numbers into the
intervals that round to one double each.

## Main definitions

- `Double.abs`, `Double.value` — the number that a finite double stands for
- `Double.valueAt` — the magnitudes in increasing order
- `Double.midpoint` — the number halfway to the next magnitude
- `Double.RoundsTo` — the numbers that round to a magnitude, ties to the even one

## Main statements

- `Double.valueAt_succ`, `Double.valueAt_strictMono` — the order of magnitudes
- `Double.RoundsTo.unique` — a number rounds to one magnitude only
-/

namespace EntityQuery.Double

/-- The exponent of a magnitude above the least exponent of the format. -/
def binade (n : ℕ) : ℕ :=
  n / 2 ^ 52 - 1

/-- The magnitude with the given bits, as a rational number. -/
def valueAt (n : ℕ) : ℚ :=
  ((n - binade n * 2 ^ 52 : ℕ) : ℚ) * 2 ^ ((binade n : ℤ) - 1074)

/-- The absolute value of a finite double. -/
def abs (x : Double) : ℚ :=
  x.significand * 2 ^ x.exponent

/-- The number that a finite double stands for. -/
def value (x : Double) : ℚ :=
  if x.isNegative then -x.abs else x.abs

variable {x y : Double}

theorem significand_eq : x.significand = x.magnitude - binade x.magnitude * 2 ^ 52 := by
  have hpow : Nat.pow 2 52 = 2 ^ 52 := rfl
  rw [significand, exponentField, fraction, binade, hpow]
  split <;> omega

theorem exponent_eq : x.exponent = (binade x.magnitude : ℤ) - 1074 := by
  have hpow : Nat.pow 2 52 = 2 ^ 52 := rfl
  rw [exponent, exponentField, binade, hpow]
  split <;> omega

theorem abs_eq_valueAt : x.abs = valueAt x.magnitude := by
  rw [abs, valueAt, significand_eq, exponent_eq]

/-- Bits and sign determine a double. -/
theorem eq_of_magnitude_eq (hsign : x.isNegative = y.isNegative)
    (hmagnitude : x.magnitude = y.magnitude) : x = y := by
  have hpow : Nat.pow 2 63 = 2 ^ 63 := rfl
  rw [magnitude, magnitude, hpow] at hmagnitude
  rw [isNegative, isNegative, decide_eq_decide, hpow] at hsign
  have hx : x.bits.toNat < 2 ^ 64 := x.bits.toNat_lt
  have hy : y.bits.toNat < 2 ^ 64 := y.bits.toNat_lt
  have hbits : x.bits = y.bits := UInt64.toNat_inj.1 (by omega)
  exact congrArg Double.mk hbits

-- ════════════════════════════════════════════════════════════════════════
-- The order of magnitudes
-- ════════════════════════════════════════════════════════════════════════

/-- The next magnitude is one unit of the significand away. -/
theorem valueAt_succ (n : ℕ) : valueAt (n + 1) = valueAt n + 2 ^ ((binade n : ℤ) - 1074) := by
  have hcases : binade (n + 1) = binade n ∧ binade n * 2 ^ 52 ≤ n ∨
      binade (n + 1) = binade n + 1 ∧ n + 1 = (binade n + 2) * 2 ^ 52 := by
    rw [binade, binade]
    omega
  rcases hcases with ⟨hsame, hle⟩ | ⟨hnext, hn⟩
  · have hsub : n + 1 - binade n * 2 ^ 52 = n - binade n * 2 ^ 52 + 1 := by omega
    rw [valueAt, valueAt, hsame, hsub]
    push_cast
    ring
  · -- The significand starts again at half of what it would have become.
    have hlow : n + 1 - (binade n + 1) * 2 ^ 52 = 2 ^ 52 := by omega
    have hhigh : n - binade n * 2 ^ 52 = 2 ^ 53 - 1 := by omega
    have hpow : (2 : ℚ) ^ (((binade n + 1 : ℕ) : ℤ) - 1074) = 2 * 2 ^ ((binade n : ℤ) - 1074) := by
      rw [← zpow_one_add₀ (by norm_num)]
      congr 1
      push_cast
      ring
    rw [valueAt, valueAt, hnext, hlow, hhigh, hpow]
    push_cast
    ring

theorem valueAt_strictMono : StrictMono valueAt := by
  refine strictMono_nat_of_lt_succ fun n => ?_
  rw [valueAt_succ]
  have hunit : (0 : ℚ) < 2 ^ ((binade n : ℤ) - 1074) := by positivity
  linarith

theorem valueAt_zero : valueAt 0 = 0 := by
  simp [valueAt]

/-- The magnitude with a given exponent and significand, which may have carried. -/
theorem valueAt_of_significand {B m : ℕ} (hB : B = 0 ∨ 2 ^ 52 ≤ m) (hm : m ≤ 2 ^ 53) :
    valueAt (B * 2 ^ 52 + m) = m * 2 ^ ((B : ℤ) - 1074) := by
  rcases hm.lt_or_eq with hlt | rfl
  · have hbinade : binade (B * 2 ^ 52 + m) = B := by
      rw [binade]
      omega
    rw [valueAt, hbinade, Nat.add_sub_cancel_left]
  · have hbinade : binade (B * 2 ^ 52 + 2 ^ 53) = B + 1 := by
      rw [binade]
      omega
    have hrest : B * 2 ^ 52 + 2 ^ 53 - (B + 1) * 2 ^ 52 = 2 ^ 52 := by omega
    have hexponent : ((B + 1 : ℕ) : ℤ) - 1074 = ((B : ℤ) - 1074) + 1 := by
      push_cast
      ring
    rw [valueAt, hbinade, hrest, hexponent, zpow_add_one₀ (by norm_num)]
    push_cast
    ring

/-- The number halfway between a magnitude and the next one. -/
def midpoint (n : ℕ) : ℚ :=
  (valueAt n + valueAt (n + 1)) / 2

theorem midpoint_eq (n : ℕ) : midpoint n = valueAt n + 2 ^ ((binade n : ℤ) - 1074) / 2 := by
  rw [midpoint, valueAt_succ]
  ring

theorem midpoint_strictMono : StrictMono midpoint := by
  refine strictMono_nat_of_lt_succ fun n => ?_
  have hfirst : valueAt n < valueAt (n + 1) := valueAt_strictMono (Nat.lt_succ_self n)
  have hsecond : valueAt (n + 1) < valueAt (n + 2) := valueAt_strictMono (Nat.lt_succ_self _)
  rw [midpoint, midpoint]
  linarith

theorem valueAt_lt_midpoint (n : ℕ) : valueAt n < midpoint n := by
  have hsucc : valueAt n < valueAt (n + 1) := valueAt_strictMono (Nat.lt_succ_self n)
  rw [midpoint]
  linarith

theorem midpoint_lt_valueAt (n : ℕ) : midpoint n < valueAt (n + 1) := by
  have hsucc : valueAt n < valueAt (n + 1) := valueAt_strictMono (Nat.lt_succ_self n)
  rw [midpoint]
  linarith

/-- The positive numbers that round to a magnitude: those up to the midpoints on
  either side, which belong to the even one of their neighbours. -/
def RoundsTo (r : ℚ) (n : ℕ) : Prop :=
  (midpoint (n - 1) < r ∨ n % 2 = 0 ∧ midpoint (n - 1) = r) ∧
    (r < midpoint n ∨ n % 2 = 0 ∧ r = midpoint n)

theorem RoundsTo.le {r : ℚ} {n : ℕ} (h : RoundsTo r n) : midpoint (n - 1) ≤ r ∧ r ≤ midpoint n :=
  ⟨h.1.elim le_of_lt fun heq => heq.2.le, h.2.elim le_of_lt fun heq => heq.2.le⟩

/-- A number that rounds to a magnitude rounds to no greater one. -/
theorem RoundsTo.not_lt {r : ℚ} {n m : ℕ} (hn : RoundsTo r n) (hm : RoundsTo r m) : ¬ n < m := by
  intro hlt
  -- Only a common end of two intervals could belong to both, and it belongs to the even one.
  have hbetween : midpoint n ≤ midpoint (m - 1) := midpoint_strictMono.monotone (by omega)
  have hsame : midpoint n = midpoint (m - 1) := by
    have hlow := hm.le.1
    have hhigh := hn.le.2
    linarith
  have hnext : n = m - 1 := midpoint_strictMono.injective hsame
  have heven : n % 2 = 0 := by
    rcases hn.2 with hr | ⟨heven, -⟩
    · have hlow := hm.le.1
      linarith
    · exact heven
  have heven' : m % 2 = 0 := by
    rcases hm.1 with hr | ⟨heven, -⟩
    · have hhigh := hn.le.2
      linarith
    · exact heven
  omega

/-- A number rounds to one magnitude only. -/
theorem RoundsTo.unique {r : ℚ} {n m : ℕ} (hn : RoundsTo r n) (hm : RoundsTo r m) : n = m := by
  have hnm := hn.not_lt hm
  have hmn := hm.not_lt hn
  omega

theorem roundsTo_valueAt {n : ℕ} (hn : n ≠ 0) : RoundsTo (valueAt n) n := by
  have hpred : valueAt (n - 1) < valueAt (n - 1 + 1) := valueAt_strictMono (Nat.lt_succ_self _)
  have hsucc : valueAt n < valueAt (n + 1) := valueAt_strictMono (Nat.lt_succ_self n)
  have hstep : n - 1 + 1 = n := by omega
  rw [hstep] at hpred
  rw [RoundsTo, midpoint, midpoint, hstep]
  constructor
  · left
    linarith
  · left
    linarith

/-- A number other than zero rounds to something positive. -/
theorem RoundsTo.pos {r : ℚ} {n : ℕ} (h : RoundsTo r n) : 0 < r := by
  have hzero : 0 ≤ valueAt (n - 1) := by
    rw [← valueAt_zero]
    exact valueAt_strictMono.monotone (Nat.zero_le _)
  have hsucc : valueAt (n - 1) < valueAt (n - 1 + 1) := valueAt_strictMono (Nat.lt_succ_self _)
  have hlow := h.le.1
  rw [midpoint] at hlow
  linarith

end EntityQuery.Double
