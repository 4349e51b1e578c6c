import EntityQuery.Proofs.Number.Exact

/-!
# Rounding to the nearest double

A ratio of natural numbers becomes the double that it rounds to. The significand is
rounded at the exponent that leaves 53 bits, or at the least one of the format; a carry
out of it gives the first magnitude of the next exponent.

## Main definitions

- `IsHalfEven` — a natural number nearest to a rational one, ties to the even one

## Main statements

- `isHalfEven_roundHalfEven`, `binaryExponent_bounds` — the parts of the rounding
- `Double.roundsTo_of_isHalfEven` — a rounded significand makes a rounded magnitude
- `Double.ofRatio_eq_of_roundsTo` — a ratio becomes the double that it rounds to
- `Double.isFinite_ofRatio`, `Double.abs_ofNat_le` — ratios in range, and how much is added
-/

namespace EntityQuery

/-- A natural number is nearest to a rational one; of two nearest ones it is the even one. -/
def IsHalfEven (r : ℚ) (m : ℕ) : Prop :=
  ((m : ℚ) - 1 / 2 < r ∨ m % 2 = 0 ∧ (m : ℚ) - 1 / 2 = r) ∧
    (r < m + 1 / 2 ∨ m % 2 = 0 ∧ r = m + 1 / 2)

theorem IsHalfEven.bounds {r : ℚ} {m : ℕ} (h : IsHalfEven r m) :
    (m : ℚ) - 1 / 2 ≤ r ∧ r ≤ m + 1 / 2 :=
  ⟨h.1.elim le_of_lt fun heq => heq.2.le, h.2.elim le_of_lt fun heq => heq.2.le⟩

theorem isHalfEven_roundHalfEven {num den : ℕ} (hden : 0 < den) :
    IsHalfEven (num / den) (roundHalfEven num den) := by
  have hpos : (0 : ℚ) < den := by exact_mod_cast hden
  obtain ⟨q, hq⟩ : ∃ q, q = num / den := ⟨_, rfl⟩
  obtain ⟨r, hr⟩ : ∃ r, r = num % den := ⟨_, rfl⟩
  have hlt : r < den := hr ▸ Nat.mod_lt num hden
  have hnum : num = den * q + r := by rw [hq, hr, Nat.div_add_mod]
  have hratio : (num : ℚ) / den = q + r / den := by
    rw [hnum]
    push_cast
    field_simp
  have hrest : (0 : ℚ) ≤ r / den := by positivity
  rw [hratio]
  simp only [roundHalfEven, ← hq, ← hr]
  split
  · rename_i hbelow
    have hhalf : (r : ℚ) / den < 1 / 2 := by
      rw [div_lt_div_iff₀ hpos (by norm_num)]
      exact_mod_cast (by omega : r * 2 < 1 * den)
    exact ⟨.inl (by linarith), .inl (by linarith)⟩
  · split
    · rename_i habove
      have hhalf : (1 : ℚ) / 2 < r / den := by
        rw [div_lt_div_iff₀ (by norm_num) hpos]
        exact_mod_cast (by omega : 1 * den < r * 2)
      have hone : (r : ℚ) / den < 1 := by
        rw [div_lt_one hpos]
        exact_mod_cast hlt
      refine ⟨.inl ?_, .inl ?_⟩ <;> push_cast <;> linarith
    · -- The number lies halfway, and the even neighbour is taken.
      have hhalf : (r : ℚ) / den = 1 / 2 := by
        rw [div_eq_div_iff hpos.ne' (by norm_num)]
        exact_mod_cast (by omega : r * 2 = 1 * den)
      rcases Nat.mod_two_eq_zero_or_one q with heven | hodd
      · rw [heven, Nat.add_zero, hhalf]
        exact ⟨.inl (by linarith), .inr ⟨heven, rfl⟩⟩
      · rw [hodd, hhalf]
        refine ⟨.inr ⟨by omega, ?_⟩, .inl ?_⟩ <;> push_cast <;> linarith

theorem two_pow_log2_bounds {n : ℕ} (hn : n ≠ 0) :
    (2 : ℚ) ^ (n.log2 : ℤ) ≤ n ∧ (n : ℚ) < 2 ^ ((n.log2 : ℤ) + 1) := by
  constructor
  · exact_mod_cast Nat.log2_self_le hn
  · exact_mod_cast (Nat.lt_log2_self : n < 2 ^ (n.log2 + 1))

/-- A power of two is compared with a ratio in natural numbers. -/
theorem two_pow_le_ratio_iff {num den : ℕ} (hden : den ≠ 0) (k : ℤ) :
    den * Nat.pow 2 k.toNat ≤ num * Nat.pow 2 (-k).toNat ↔ (2 : ℚ) ^ k ≤ num / den := by
  have hpos : (0 : ℚ) < den := by exact_mod_cast Nat.pos_of_ne_zero hden
  have hpow := Double.Interval.pow_mul_pow_neg (b := 2) (by norm_num) k
  have hunit : (0 : ℚ) < 2 ^ (-k).toNat := by positivity
  simp only [Nat.pow_eq]
  rw [le_div_iff₀ hpos, ← mul_le_mul_iff_left₀ hunit, mul_right_comm, hpow, mul_comm,
    ← Nat.cast_le (α := ℚ)]
  push_cast
  rfl

theorem binaryExponent_bounds {num den : ℕ} (hnum : num ≠ 0) (hden : den ≠ 0) :
    (2 : ℚ) ^ binaryExponent num den ≤ num / den ∧
      (num : ℚ) / den < 2 ^ (binaryExponent num den + 1) := by
  have hpos : (0 : ℚ) < den := by exact_mod_cast Nat.pos_of_ne_zero hden
  obtain ⟨hnumlow, hnumhigh⟩ := two_pow_log2_bounds hnum
  obtain ⟨hdenlow, hdenhigh⟩ := two_pow_log2_bounds hden
  obtain ⟨k, hk⟩ : ∃ k : ℤ, k = (num.log2 : ℤ) - den.log2 := ⟨_, rfl⟩
  have hhigh : (num : ℚ) / den < 2 ^ (k + 1) := by
    rw [div_lt_iff₀ hpos]
    calc (num : ℚ) < 2 ^ ((num.log2 : ℤ) + 1) := hnumhigh
      _ = 2 ^ (k + 1) * 2 ^ (den.log2 : ℤ) := by
        rw [← zpow_add₀ (by norm_num)]
        congr 1
        omega
      _ ≤ 2 ^ (k + 1) * den := by gcongr
  have hlow : (2 : ℚ) ^ (k - 1) ≤ num / den := by
    rw [le_div_iff₀ hpos]
    calc (2 : ℚ) ^ (k - 1) * den ≤ 2 ^ (k - 1) * 2 ^ ((den.log2 : ℤ) + 1) := by gcongr
      _ = 2 ^ (num.log2 : ℤ) := by
        rw [← zpow_add₀ (by norm_num)]
        congr 1
        omega
      _ ≤ num := hnumlow
  rw [binaryExponent]
  simp only [← hk, two_pow_le_ratio_iff hden]
  split
  · rename_i hle
    exact ⟨hle, hhigh⟩
  · rename_i hgt
    rw [sub_add_cancel]
    exact ⟨hlow, not_le.1 hgt⟩

theorem binaryExponent_eq {num den : ℕ} {k : ℤ} (hnum : num ≠ 0) (hden : den ≠ 0)
    (hlow : (2 : ℚ) ^ k ≤ num / den) (hhigh : (num : ℚ) / den < 2 ^ (k + 1)) :
    binaryExponent num den = k := by
  obtain ⟨hlow', hhigh'⟩ := binaryExponent_bounds hnum hden
  have hle : k < binaryExponent num den + 1 :=
    (zpow_lt_zpow_iff_right₀ (by norm_num : (1 : ℚ) < 2)).1 (hlow.trans_lt hhigh')
  have hge : binaryExponent num den < k + 1 :=
    (zpow_lt_zpow_iff_right₀ (by norm_num : (1 : ℚ) < 2)).1 (hlow'.trans_lt hhigh)
  omega

theorem binaryExponent_mul_right {num den c : ℕ} (hnum : num ≠ 0) (hden : den ≠ 0) (hc : c ≠ 0) :
    binaryExponent (num * c) (den * c) = binaryExponent num den := by
  have hratio : ((num * c : ℕ) : ℚ) / (den * c : ℕ) = num / den := by
    push_cast
    exact mul_div_mul_right _ _ (by exact_mod_cast hc)
  obtain ⟨hlow, hhigh⟩ := binaryExponent_bounds hnum hden
  apply binaryExponent_eq (Nat.mul_ne_zero hnum hc) (Nat.mul_ne_zero hden hc)
  · rwa [hratio]
  · rwa [hratio]

namespace Double

variable {B m n : ℕ} {r s : ℚ}

theorem midpoint_of_significand (hB : B = 0 ∨ 2 ^ 52 ≤ m) (hm : m < 2 ^ 53) :
    midpoint (B * 2 ^ 52 + m) = (m + 1 / 2) * 2 ^ ((B : ℤ) - 1074) := by
  have hsucc : valueAt (B * 2 ^ 52 + m + 1) = (m + 1 : ℕ) * 2 ^ ((B : ℤ) - 1074) := by
    rw [Nat.add_assoc, valueAt_of_significand (hB.imp id (by omega)) (by omega)]
  rw [midpoint, hsucc, valueAt_of_significand hB hm.le]
  push_cast
  ring

/-- A number rounds to the magnitude whose significand is the number's, rounded at the same
  exponent. -/
theorem roundsTo_of_isHalfEven (hB : B = 0 ∨ 2 ^ 52 ≤ s) (hs : s < 2 ^ 53)
    (h : IsHalfEven s m) (hm : m ≠ 0) :
    RoundsTo (s * 2 ^ ((B : ℤ) - 1074)) (B * 2 ^ 52 + m) := by
  have hpos : (0 : ℚ) < 2 ^ ((B : ℤ) - 1074) := by positivity
  obtain ⟨hmlow, hmhigh⟩ := h.bounds
  have hhigh : m ≤ 2 ^ 53 := by
    have hcast : (m : ℚ) < (2 ^ 53 + 1 : ℕ) := by
      push_cast
      linarith
    exact Nat.lt_succ_iff.1 (Nat.cast_lt.1 hcast)
  have hlow : B = 0 ∨ 2 ^ 52 ≤ m := by
    refine hB.imp id fun hs' => ?_
    have hcast : ((2 ^ 52 : ℕ) : ℚ) < (m + 1 : ℕ) := by
      push_cast
      linarith
    exact Nat.lt_succ_iff.1 (Nat.cast_lt.1 hcast)
  have hparity : (B * 2 ^ 52 + m) % 2 = m % 2 := by omega
  have hvalue := valueAt_of_significand hlow hhigh
  rw [RoundsTo, hparity]
  constructor
  · by_cases hfirst : B = 0 ∨ 2 ^ 52 < m
    · have hsub : B * 2 ^ 52 + m - 1 = B * 2 ^ 52 + (m - 1) := by omega
      have hpred : ((m - 1 : ℕ) : ℚ) + 1 / 2 = m - 1 / 2 := by
        rw [Nat.cast_pred (Nat.pos_of_ne_zero hm)]
        ring
      rw [hsub, midpoint_of_significand (hfirst.imp id (by omega)) (by omega), hpred,
        mul_lt_mul_iff_left₀ hpos, mul_left_inj' hpos.ne']
      exact h.1
    · -- The first magnitude of an exponent: a number below it has another exponent.
      left
      obtain ⟨hB0, hm52⟩ := not_or.1 hfirst
      have hadd : B * 2 ^ 52 + m - 1 + 1 = B * 2 ^ 52 + m := by omega
      have hbelow := midpoint_lt_valueAt (B * 2 ^ 52 + m - 1)
      rw [hadd, hvalue] at hbelow
      refine hbelow.trans_le (mul_le_mul_of_nonneg_right ?_ hpos.le)
      exact (Nat.cast_le.2 (not_lt.1 hm52)).trans (by exact_mod_cast hB.resolve_left hB0)
  · rcases hhigh.lt_or_eq with hlt | hcarry
    · rw [midpoint_of_significand hlow hlt, mul_lt_mul_iff_left₀ hpos, mul_left_inj' hpos.ne']
      exact h.2
    · left
      refine lt_trans ?_ (valueAt_lt_midpoint _)
      rw [hvalue, hcarry]
      refine mul_lt_mul_of_pos_right ?_ hpos
      exact_mod_cast hs

/-- What rounds to a positive magnitude is more than half of the least one. -/
theorem significand_ne_zero (hB : B = 0 ∨ 2 ^ 52 ≤ s) (h : IsHalfEven s m)
    (hn : RoundsTo (s * 2 ^ ((B : ℤ) - 1074)) n) (hn0 : n ≠ 0) : m ≠ 0 := by
  rintro rfl
  have hhalf : s ≤ 1 / 2 := by
    simpa using h.bounds.2
  obtain rfl : B = 0 := hB.resolve_right (by linarith)
  have hfirst : s * 2 ^ (((0 : ℕ) : ℤ) - 1074) ≤ midpoint 0 := by
    have hzero : binade 0 = 0 := rfl
    rw [midpoint_eq, valueAt_zero, hzero, zero_add, div_eq_mul_one_div, mul_comm (2 ^ _)]
    exact mul_le_mul_of_nonneg_right hhalf (by positivity)
  have hmono : midpoint 0 ≤ midpoint (n - 1) := midpoint_strictMono.monotone (Nat.zero_le _)
  -- Half of the least magnitude belongs to zero, which is even.
  have hsame : midpoint (n - 1) = midpoint 0 := by
    have hlow := hn.le.1
    linarith
  have hone : n - 1 = 0 := midpoint_strictMono.injective hsame
  rcases hn.1 with hlt | ⟨heven, -⟩
  · linarith
  · omega

theorem ratio_eq_scaled (num : ℕ) {den : ℕ} (hden : den ≠ 0) (q : ℤ) :
    (num : ℚ) / den =
      (num * 2 ^ (-q).toNat : ℕ) / (den * 2 ^ q.toNat : ℕ) * 2 ^ q := by
  have hpow := Interval.pow_mul_pow_neg (b := 2) (by norm_num) q
  push_cast
  rw [← hpow]
  field_simp

/-- The significand has 53 bits, or fewer at the least exponent of the format. -/
theorem significand_bounds {e q : ℤ} (hq : q = max (e - 52) (-1074)) (hqB : q = B - 1074)
    (hlow : (2 : ℚ) ^ e ≤ s * 2 ^ q) (hhigh : s * 2 ^ q < 2 ^ (e + 1)) :
    (B = 0 ∨ 2 ^ 52 ≤ s) ∧ s < 2 ^ 53 := by
  have hunit : (0 : ℚ) < 2 ^ q := by positivity
  constructor
  · by_cases hB0 : B = 0
    · exact .inl hB0
    · right
      refine le_of_mul_le_mul_right (le_trans (le_of_eq ?_) hlow) hunit
      rw [← zpow_natCast, ← zpow_add₀ (by norm_num)]
      congr 1
      omega
  · refine lt_of_mul_lt_mul_right (hhigh.trans_le ?_) hunit.le
    rw [← zpow_natCast, ← zpow_add₀ (by norm_num)]
    exact zpow_le_zpow_right₀ (by norm_num) (by omega)

/-- A ratio is rounded at an exponent that leaves 53 bits, or at the least one. -/
theorem exists_rounding (negative : Bool) {num den : ℕ} (hnum : num ≠ 0) (hden : den ≠ 0) :
    ∃ (B m : ℕ) (s : ℚ), (num : ℚ) / den = s * 2 ^ ((B : ℤ) - 1074) ∧ (B = 0 ∨ 2 ^ 52 ≤ s) ∧
      s < 2 ^ 53 ∧ IsHalfEven s m ∧
      ofRatio negative num den = ofMagnitude negative (min (B * 2 ^ 52 + m) infinityMagnitude) := by
  obtain ⟨hlow, hhigh⟩ := binaryExponent_bounds hnum hden
  obtain ⟨q, hq⟩ : ∃ q, q = max (binaryExponent num den - 52) (-1074) := ⟨_, rfl⟩
  obtain ⟨B, hB⟩ : ∃ B : ℕ, B = (q + 1074).toNat := ⟨_, rfl⟩
  have hqB : q = (B : ℤ) - 1074 := by omega
  obtain ⟨s, hs⟩ : ∃ s : ℚ, s = (num * 2 ^ (-q).toNat : ℕ) / (den * 2 ^ q.toNat : ℕ) := ⟨_, rfl⟩
  have hratio : (num : ℚ) / den = s * 2 ^ q := by rw [hs, ← ratio_eq_scaled num hden q]
  rw [hratio] at hlow hhigh
  obtain ⟨hslow, hshigh⟩ := significand_bounds hq hqB hlow hhigh
  refine ⟨B, roundHalfEven (num * 2 ^ (-q).toNat) (den * 2 ^ q.toNat), s, hqB ▸ hratio, hslow,
    hshigh, ?_, ?_⟩
  · rw [hs]
    exact isHalfEven_roundHalfEven (Nat.pos_of_ne_zero (by positivity))
  · rw [ofRatio, if_neg hnum]
    simp only [Nat.pow_eq, ← hq, ← hB]

/-- Only the value of a ratio matters. -/
theorem ofRatio_mul_right (negative : Bool) (num : ℕ) {den c : ℕ} (hden : den ≠ 0) (hc : c ≠ 0) :
    ofRatio negative (num * c) (den * c) = ofRatio negative num den := by
  have hpos : 0 < c := Nat.pos_of_ne_zero hc
  by_cases hnum : num = 0
  · rw [hnum, Nat.zero_mul, ofRatio, ofRatio, if_pos rfl, if_pos rfl]
  · rw [ofRatio, ofRatio, if_neg hnum, if_neg (Nat.mul_ne_zero hnum hc),
      binaryExponent_mul_right hnum hden hc]
    simp only [Nat.mul_right_comm _ c, roundHalfEven_mul_right _ _ hpos]

/-- A ratio becomes the double that it rounds to. -/
theorem ofRatio_eq_of_roundsTo {num den : ℕ} (negative : Bool) (hden : den ≠ 0)
    (h : RoundsTo (num / den) n) (hn : n ≠ 0) (hfinite : n < infinityMagnitude) :
    ofRatio negative num den = ofMagnitude negative n := by
  have hnum : num ≠ 0 := by
    rintro rfl
    simpa using h.pos
  obtain ⟨B, m, s, hratio, hslow, hshigh, hround, heq⟩ := exists_rounding negative hnum hden
  rw [hratio] at h
  have hm : m ≠ 0 := significand_ne_zero hslow hround h hn
  have hmagnitude : B * 2 ^ 52 + m = n := (roundsTo_of_isHalfEven hslow hshigh hround hm).unique h
  rw [heq, hmagnitude, min_eq_left hfinite.le]

theorem RoundsTo.lt_infinity (h : RoundsTo r n) (hr : r < midpoint (infinityMagnitude - 1)) :
    n < infinityMagnitude := by
  refine not_le.1 fun hle => hr.not_ge ?_
  calc midpoint (infinityMagnitude - 1) ≤ midpoint (n - 1) :=
        midpoint_strictMono.monotone (Nat.sub_le_sub_right hle 1)
    _ ≤ r := h.le.1

/-- A ratio below the upper end of the greatest double becomes a finite double, which is zero
  or a magnitude that the ratio rounds to. -/
theorem exists_ofRatio_eq {num den : ℕ} (negative : Bool) (hden : den ≠ 0)
    (h : (num : ℚ) / den < midpoint (infinityMagnitude - 1)) :
    ∃ n, n < infinityMagnitude ∧ ofRatio negative num den = ofMagnitude negative n ∧
      (n = 0 ∨ RoundsTo (num / den) n) := by
  by_cases hnum : num = 0
  · exact ⟨0, by decide, by rw [ofRatio, if_pos hnum, zero], .inl rfl⟩
  · obtain ⟨B, m, s, hratio, hslow, hshigh, hround, heq⟩ := exists_rounding negative hnum hden
    by_cases hm : m = 0
    · have hB : B = 0 := by
        refine hslow.resolve_right fun hs => ?_
        have hhalf := hround.bounds.2
        rw [hm, Nat.cast_zero] at hhalf
        linarith
      rw [hB, hm] at heq
      exact ⟨0, by decide, heq, .inl rfl⟩
    · have hrounds := roundsTo_of_isHalfEven hslow hshigh hround hm
      rw [← hratio] at hrounds
      have hfinite := hrounds.lt_infinity h
      rw [min_eq_left hfinite.le] at heq
      exact ⟨_, hfinite, heq, .inr hrounds⟩

theorem isFinite_ofRatio {num den : ℕ} (negative : Bool) (hden : den ≠ 0)
    (h : (num : ℚ) / den < midpoint (infinityMagnitude - 1)) :
    (ofRatio negative num den).isFinite = true := by
  have hinfinity : infinityMagnitude = 2047 * 2 ^ 52 := rfl
  obtain ⟨n, hfinite, heq, -⟩ := exists_ofRatio_eq negative hden h
  rw [heq, isFinite, (ofMagnitude_fields negative (by omega)).1]
  exact decide_eq_true hfinite

/-- Rounding adds at most half a unit in the last place to a number that is not below one. -/
theorem RoundsTo.valueAt_le (h : RoundsTo r n) (hone : 1 ≤ r) (hn : n ≠ 0) :
    valueAt n ≤ (1 + 1 / 2 ^ 53) * r := by
  obtain ⟨u, hu⟩ : ∃ u : ℚ, u = 2 ^ ((binade (n - 1) : ℤ) - 1074) := ⟨_, rfl⟩
  have hlow := h.le.1
  have hadd : n - 1 + 1 = n := by omega
  have hsucc := valueAt_succ (n - 1)
  rw [hadd, ← hu] at hsucc
  rw [midpoint_eq, ← hu] at hlow
  have hupos : 0 < u := by rw [hu]; positivity
  have hunit : u * 2 ^ 52 ≤ r := by
    by_cases hbinade : binade (n - 1) = 0
    · have hle : (2 : ℚ) ^ ((0 : ℕ) - 1074 : ℤ) * 2 ^ 52 ≤ 1 := by
        rw [← zpow_natCast, ← zpow_add₀ (by norm_num)]
        exact zpow_le_one_of_nonpos₀ (by norm_num) (by norm_num)
      rw [hu, hbinade]
      exact hle.trans hone
    · have hsignificand : 2 ^ 52 ≤ n - 1 - binade (n - 1) * 2 ^ 52 := by
        rw [binade] at hbinade ⊢
        omega
      have hvalue : 2 ^ 52 * u ≤ valueAt (n - 1) := by
        rw [valueAt, ← hu]
        exact mul_le_mul_of_nonneg_right (by exact_mod_cast hsignificand) hupos.le
      linarith
  linarith

theorem abs_ofNat_le {c : ℕ} (hc : c ≠ 0) (h : (c : ℚ) < midpoint (infinityMagnitude - 1)) :
    (ofNat c).abs ≤ (1 + 1 / 2 ^ 53) * c := by
  have hinfinity : infinityMagnitude = 2047 * 2 ^ 52 := rfl
  have hratio : (c : ℚ) / (1 : ℕ) = c := by rw [Nat.cast_one, div_one]
  have hone : (1 : ℚ) ≤ c := by exact_mod_cast Nat.one_le_iff_ne_zero.2 hc
  obtain ⟨n, hfinite, heq, hrounds⟩ := exists_ofRatio_eq false one_ne_zero (hratio ▸ h)
  rw [ofNat, abs_eq_valueAt, heq, (ofMagnitude_fields false (by omega)).1]
  by_cases hn : n = 0
  · rw [hn, valueAt_zero]
    positivity
  · exact (hratio ▸ hrounds.resolve_left hn).valueAt_le hone hn

end Double

end EntityQuery
