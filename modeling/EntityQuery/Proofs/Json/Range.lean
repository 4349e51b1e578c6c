import EntityQuery.Json.Read
import EntityQuery.Proofs.Json.Rereading

/-!
# Numbers that are read are in range

A JSON number becomes an integer of 64 bits, with a sign or without one, or a finite double,
whatever its digits are. Dividing by a power of ten makes a number no greater, multiplying by
one is checked, and digits beyond 64 bits are dropped.

## Main definitions

- `Json.Number.InRange` — the integers of 64 bits and the finite doubles
- `Json.Number.value` — a JSON number as a rational one
- `Json.Yields` — whatever a scanner reads has a property

## Main statements

- `Json.Number.InRange.toDouble` — the double of a number in range keeps it in range
- `Json.isFinite_of_scaled?` — digits and a power of ten have a finite product or none
- `Json.yields_scanNumber` — numbers that are read are in range
-/

namespace EntityQuery

namespace Double

variable {x y : Double} {n : ℕ}

-- ════════════════════════════════════════════════════════════════════════
-- Finite doubles
-- ════════════════════════════════════════════════════════════════════════

theorem isFinite_ofMagnitude (negative : Bool) (hn : n < infinityMagnitude) :
    (ofMagnitude negative n).isFinite = true := by
  have hinfinity : infinityMagnitude = 2047 * 2 ^ 52 := rfl
  rw [isFinite, (ofMagnitude_fields negative (by omega)).1]
  exact decide_eq_true hn

theorem isFinite_zero (negative : Bool) : (zero negative).isFinite = true :=
  isFinite_ofMagnitude negative (by decide)

theorem isFinite_neg (hx : x.isFinite = true) : x.neg.isFinite = true :=
  isFinite_ofMagnitude _ (of_decide_eq_true hx)

theorem log2_lt_of_lt (hn : n < 2 ^ 64) : n.log2 < 1023 := by
  by_cases hzero : n = 0
  · rw [hzero]
    decide
  · have hlog : n.log2 < 64 := (Nat.log2_lt hzero).2 hn
    omega

theorem isFinite_ofNat (hn : n < 2 ^ 64) : (ofNat n).isFinite = true :=
  (ofRatio_one false (log2_lt_of_lt hn)).1

theorem one_le_valueAt (hn : 1023 * 2 ^ 52 ≤ n) : 1 ≤ valueAt n := by
  have hone : valueAt (1022 * 2 ^ 52 + 2 ^ 52) = 1 := by
    rw [valueAt_of_significand (.inr le_rfl) (by norm_num)]
    norm_num
  rw [← hone]
  exact valueAt_strictMono.monotone (by omega)

/-- A natural number other than zero does not become less than one. -/
theorem one_le_abs_ofNat (hn : n ≠ 0) : 1 ≤ (ofNat n).abs := by
  have hinfinity : infinityMagnitude = 2047 * 2 ^ 52 := rfl
  have hone : (1 : ℚ) ≤ (n : ℚ) / (1 : ℕ) := by
    rw [Nat.cast_one, div_one]
    exact_mod_cast Nat.one_le_iff_ne_zero.2 hn
  obtain ⟨B, m, s, hratio, hslow, hshigh, hround, heq⟩ := exists_rounding false hn one_ne_zero
  rw [hratio] at hone
  have hB : 1022 ≤ B := by
    by_contra hlt
    have hunit : (2 : ℚ) ^ ((B : ℤ) - 1074) ≤ 2 ^ (-53 : ℤ) :=
      zpow_le_zpow_right₀ (by norm_num) (by omega)
    have hlt : s * 2 ^ ((B : ℤ) - 1074) < 2 ^ 53 * 2 ^ (-53 : ℤ) :=
      mul_lt_mul hshigh hunit (by positivity) (by norm_num)
    norm_num at hlt
    linarith
  have hm : 2 ^ 52 ≤ m := by
    have hs := hslow.resolve_left (by omega)
    have hcast : ((2 ^ 52 : ℕ) : ℚ) < (m + 1 : ℕ) := by
      push_cast
      linarith [hround.bounds.2]
    exact Nat.lt_succ_iff.1 (Nat.cast_lt.1 hcast)
  rw [abs_eq_valueAt, ofNat, heq, (ofMagnitude_fields false (by omega)).1]
  exact one_le_valueAt (by omega)

/-- Dividing by a number that is not below one leaves a double finite. -/
theorem isFinite_div (hx : x.isFinite = true) (hy : 1 ≤ y.abs) : (x.div y).isFinite = true := by
  have hfinite : x.magnitude < infinityMagnitude := of_decide_eq_true hx
  have hnum : y.numerator ≠ 0 := by
    intro hzero
    rw [abs_eq_ratio, hzero] at hy
    norm_num at hy
  have hnonneg : 0 ≤ x.abs := by
    rw [abs]
    positivity
  refine isFinite_ofRatio _ (Nat.mul_ne_zero denominator_ne_zero hnum) ?_
  rw [Nat.cast_mul, Nat.cast_mul, ← div_div_div_eq, ← abs_eq_ratio, ← abs_eq_ratio]
  calc x.abs / y.abs ≤ x.abs := div_le_self hnonneg hy
    _ = valueAt x.magnitude := abs_eq_valueAt
    _ < midpoint x.magnitude := valueAt_lt_midpoint _
    _ ≤ midpoint (infinityMagnitude - 1) := midpoint_strictMono.monotone (by omega)

end Double

namespace Json

open Double

/-- The integers of 64 bits, with a sign or without one, and the finite doubles. -/
def Number.InRange : Number → Prop
  | .integer i => -2 ^ 63 ≤ i ∧ i < 2 ^ 64
  | .float x => x.isFinite = true

/-- The number as a rational one, if it is finite. -/
def Number.value : Number → ℚ
  | .integer i => i
  | .float x => x.value

/-- Whatever a scanner reads has the property. -/
def Yields {α : Type} (P : α → Prop) (scanner : Scanner α) : Prop :=
  ∀ ⦃s a rest⦄, scanner s = .ok (a, rest) → P a

/-- The nearest double to a number in range is finite, and not negative if the number is not. -/
theorem Number.InRange.toDouble {n : Number} (h : n.InRange) :
    n.toDouble.isFinite = true ∧ (0 ≤ n.value → 0 ≤ n.toDouble.value) := by
  cases n with
  | integer i =>
    obtain ⟨hlow, hhigh⟩ := h
    obtain ⟨hfinite, hsign, habs⟩ :=
      ofRatio_one (decide (i < 0)) (log2_lt_of_lt (n := i.natAbs) (by omega))
    refine ⟨hfinite, fun hnonneg => ?_⟩
    have hi : ¬ i < 0 := not_lt.2 (Int.cast_nonneg_iff.1 hnonneg)
    show 0 ≤ (ofInt i).value
    rw [Double.value, ofInt, hsign, habs, if_neg (by simpa using hi)]
    exact Nat.cast_nonneg _
  | float x => exact ⟨h, id⟩

-- ════════════════════════════════════════════════════════════════════════
-- Digits and powers of ten
-- ════════════════════════════════════════════════════════════════════════

theorem one_le_abs_powerOfTen (n : ℕ) : 1 ≤ (powerOfTen n).abs :=
  one_le_abs_ofNat (Nat.pow_pos (by norm_num)).ne'

theorem isFinite_scaleDown {x : Double} (hx : x.isFinite = true) (rounds n : ℕ) :
    (scaleDown x rounds n).isFinite = true := by
  induction rounds generalizing x n with
  | zero => exact isFinite_div hx (one_le_abs_powerOfTen n)
  | succ rounds ih =>
    rw [scaleDown]
    split
    · exact hx
    · exact ih (isFinite_div hx (one_le_abs_powerOfTen 308)) _

variable {c n : ℕ} {e : ℤ}

theorem lt_of_le_maxNatural (hc : c ≤ maxNatural) : c < 2 ^ 64 := by
  have hmax : maxNatural = 2 ^ 64 - 1 := rfl
  omega

/-- Digits and a power of ten have a finite product or none. -/
theorem isFinite_of_scaled? {y : Double} (hc : c ≤ maxNatural) (h : scaled? c e = some y) :
    y.isFinite = true := by
  have hdigits : (ofNat c).isFinite = true := isFinite_ofNat (lt_of_le_maxNatural hc)
  rw [scaled?] at h
  dsimp only at h
  split_ifs at h with hneg hgreat hzero hfinite
  · cases h
    exact isFinite_scaleDown hdigits _ _
  · cases h
    exact hdigits
  · cases h
    exact hfinite

theorem appendDigits_le (hn : n ≤ maxNatural) (digits : List Char) :
    (appendDigits n digits).1 ≤ maxNatural := by
  induction digits generalizing n with
  | nil => exact hn
  | cons c digits ih =>
    rw [appendDigits]
    split_ifs with hfits
    · exact ih hfits
    · exact hn

-- ════════════════════════════════════════════════════════════════════════
-- Numbers
-- ════════════════════════════════════════════════════════════════════════

theorem yields_floatOf (hc : c ≤ maxNatural) (negative : Bool) (e : ℤ) :
    Yields Number.InRange (floatOf negative c e) := by
  intro s a rest h
  rw [floatOf] at h
  split at h
  · cases h
  · rename_i y hy
    cases h
    have hfinite : y.isFinite = true := isFinite_of_scaled? hc hy
    show (if negative then y.neg else y).isFinite = true
    split
    · exact isFinite_neg hfinite
    · exact hfinite

theorem yields_scanExponent (hc : c ≤ maxNatural) (negative : Bool) (e : ℤ) :
    Yields Number.InRange (scanExponent negative c e) := by
  intro s a rest h
  unfold scanExponent at h
  dsimp only at h
  split at h
  · cases h
  · split at h
    · cases h
    · split at h
      · exact yields_floatOf hc _ _ h
      · split_ifs at h
        cases h
        exact isFinite_zero negative

theorem yields_scanFraction (hc : c ≤ maxNatural) (negative : Bool) (e : ℤ) :
    Yields Number.InRange (scanFraction negative c e) := by
  intro s a rest h
  have hdigits := appendDigits_le hc (s.takeWhile Char.isDigit)
  unfold scanFraction at h
  dsimp only at h
  split_ifs at h
  split at h
  · exact yields_scanExponent hdigits _ _ h
  · exact yields_scanExponent hdigits _ _ h
  · exact yields_floatOf hdigits _ _ h

theorem yields_scanAfterInteger (hc : c ≤ maxNatural) (negative : Bool) (dropped : ℕ) :
    Yields Number.InRange (scanAfterInteger negative c dropped) := by
  intro s a rest h
  have hlt := lt_of_le_maxNatural hc
  unfold scanAfterInteger at h
  split at h
  · exact yields_scanFraction hc _ _ h
  · exact yields_scanExponent hc _ _ h
  · exact yields_scanExponent hc _ _ h
  · split_ifs at h with hdropped hpositive hnegative
    · exact yields_floatOf hc _ _ h
    · cases h
      exact ⟨by omega, by exact_mod_cast hlt⟩
    · cases h
      have hpow : Nat.pow 2 63 = 2 ^ 63 := rfl
      refine ⟨?_, ?_⟩ <;> omega
    · cases h
      exact isFinite_neg (isFinite_ofNat hlt)

theorem yields_scanMagnitude (negative : Bool) :
    Yields Number.InRange (scanMagnitude negative) := by
  intro s a rest h
  have hzero : 0 ≤ maxNatural := Nat.zero_le _
  unfold scanMagnitude at h
  split at h
  · cases h
  · split at h
    · split_ifs at h
      exact yields_scanAfterInteger hzero _ _ h
    · exact yields_scanAfterInteger hzero _ _ h
  · split_ifs at h
    exact yields_scanAfterInteger (appendDigits_le hzero _) _ _ h

/-- Numbers that are read are in range. -/
theorem yields_scanNumber : Yields Number.InRange scanNumber := by
  intro s a rest h
  unfold scanNumber at h
  split at h
  · exact yields_scanMagnitude true h
  · exact yields_scanMagnitude false h

end Json

end EntityQuery
