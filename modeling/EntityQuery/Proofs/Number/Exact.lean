import EntityQuery.Proofs.Number.Nearest

/-!
# Integers that are doubles

An integer whose significant bits fit the significand of the format is a double
itself: nothing is lost when it is rounded to the nearest one.

## Main statements

- `Double.roundToBits_eq_iff` — the numbers that have at most so many significant bits
- `Double.ofInt_exact` — an integer with at most 53 significant bits is a double
-/

namespace EntityQuery

/-- Rounding a quotient loses nothing exactly if the division leaves no rest. -/
theorem roundHalfEven_mul_eq_iff {num den : ℕ} (hden : 0 < den) :
    roundHalfEven num den * den = num ↔ den ∣ num := by
  constructor
  · intro h
    exact ⟨_, h.symm.trans (Nat.mul_comm _ _)⟩
  · intro h
    have hmod : num % den = 0 := Nat.mod_eq_zero_of_dvd h
    rw [roundHalfEven, hmod, if_pos (by simpa using hden), Nat.div_mul_cancel h]

theorem roundHalfEven_bounds (num : ℕ) {den : ℕ} (hden : 0 < den) :
    num / den ≤ roundHalfEven num den ∧
      (roundHalfEven num den ≤ num / den ∨
        roundHalfEven num den = num / den + 1 ∧ num % den ≠ 0) := by
  obtain ⟨q, hq⟩ : ∃ q, q = num / den := ⟨_, rfl⟩
  obtain ⟨r, hr⟩ : ∃ r, r = num % den := ⟨_, rfl⟩
  simp only [roundHalfEven, ← hq, ← hr]
  split
  · omega
  · split <;> omega

theorem le_roundHalfEven {num den m : ℕ} (hden : 0 < den) (h : m * den ≤ num) :
    m ≤ roundHalfEven num den :=
  ((Nat.le_div_iff_mul_le hden).2 h).trans (roundHalfEven_bounds num hden).1

theorem roundHalfEven_le {num den m : ℕ} (hden : 0 < den) (h : num ≤ m * den) :
    roundHalfEven num den ≤ m := by
  rcases (roundHalfEven_bounds num hden).2 with hle | ⟨hsucc, hrest⟩
  · exact hle.trans (Nat.div_le_of_le_mul (by rwa [Nat.mul_comm]))
  · -- A rest is left, so the quotient itself is less.
    have hlt : num < m * den := by
      refine lt_of_le_of_ne h fun heq => hrest ?_
      rw [heq, Nat.mul_mod_left]
    rw [hsucc]
    exact (Nat.div_lt_iff_lt_mul hden).2 hlt

theorem roundHalfEven_mul_right (num den : ℕ) {c : ℕ} (hc : 0 < c) :
    roundHalfEven (num * c) (den * c) = roundHalfEven num den := by
  have hbelow : 2 * (num % den * c) < den * c ↔ 2 * (num % den) < den := by
    rw [← Nat.mul_assoc, Nat.mul_lt_mul_right hc]
  have habove : den * c < 2 * (num % den * c) ↔ den < 2 * (num % den) := by
    rw [← Nat.mul_assoc, Nat.mul_lt_mul_right hc]
  simp only [roundHalfEven, Nat.mul_div_mul_right _ _ hc, Nat.mul_mod_mul_right, hbelow, habove]

/-- The exponent of a natural number is the place of its leading bit. -/
theorem binaryExponent_one {n : ℕ} (hn : n ≠ 0) : binaryExponent n 1 = n.log2 := by
  have hone : Nat.log2 1 = 0 := by rw [Nat.log2_def]; rfl
  have hle : 2 ^ n.log2 ≤ n := Nat.log2_self_le hn
  rw [binaryExponent, hone]
  simp [hle]

namespace Double

variable {n : ℕ}

/-- A number has at most so many significant bits exactly if the power of two that they
  leave divides it. -/
theorem roundToBits_eq_iff {precision : ℕ} :
    roundToBits precision n = n ↔ 2 ^ (n.log2 + 1 - precision) ∣ n := by
  rw [roundToBits]
  simp only [Nat.pow_eq]
  exact roundHalfEven_mul_eq_iff (Nat.two_pow_pos _)

theorem roundToBits_mono {precision wider : ℕ} (hle : precision ≤ wider)
    (h : roundToBits precision n = n) : roundToBits wider n = n := by
  rw [roundToBits_eq_iff] at h ⊢
  exact (Nat.pow_dvd_pow 2 (by omega)).trans h

/-- Rounding carries at most into the next bit. -/
theorem roundToBits_le (precision n : ℕ) : roundToBits precision n ≤ 2 ^ (n.log2 + 1) := by
  have hpow : 2 ^ min precision (n.log2 + 1) * 2 ^ (n.log2 + 1 - precision) =
      2 ^ (n.log2 + 1) := by
    rw [← Nat.pow_add]
    congr 1
    omega
  have hround : roundHalfEven n (2 ^ (n.log2 + 1 - precision)) ≤ 2 ^ min precision (n.log2 + 1) := by
    apply roundHalfEven_le (Nat.two_pow_pos _)
    rw [hpow]
    exact Nat.lt_log2_self.le
  rw [roundToBits, ← hpow]
  exact Nat.mul_le_mul_right _ hround

theorem log2_roundToBits_le (precision n : ℕ) :
    (roundToBits precision n).log2 ≤ n.log2 + 1 := by
  by_cases hzero : roundToBits precision n = 0
  · rw [hzero]
    exact Nat.zero_le _
  · apply Nat.lt_succ_iff.1
    apply (Nat.log2_lt hzero).2
    exact (roundToBits_le precision n).trans_lt (Nat.pow_lt_pow_right (by decide) (by omega))

/-- A rounded number is not rounded again when there is room for more bits. -/
theorem roundToBits_roundToBits {precision wider : ℕ} (h : precision < wider) :
    roundToBits wider (roundToBits precision n) = roundToBits precision n := by
  have hlog := log2_roundToBits_le precision n
  have hdvd : 2 ^ (n.log2 + 1 - precision) ∣ roundToBits precision n := Nat.dvd_mul_left _ _
  rw [roundToBits_eq_iff]
  exact (Nat.pow_dvd_pow 2 (by omega)).trans hdvd

theorem ofMagnitude_fields (negative : Bool) (hn : n < 2 ^ 63) :
    (ofMagnitude negative n).magnitude = n ∧
      (ofMagnitude negative n).isNegative = negative := by
  have hpow : Nat.pow 2 63 = 2 ^ 63 := rfl
  have hbits : (ofMagnitude negative n).bits.toNat = (if negative then 2 ^ 63 else 0) + n := by
    rw [ofMagnitude, hpow]
    refine UInt64.toNat_ofNat_of_lt' ?_
    rw [UInt64.size]
    split <;> omega
  rw [magnitude, isNegative, hbits, hpow]
  cases negative with
  | false => simpa using hn
  | true => simpa using hn

/-- Shifted so that 53 bits stand before the point, a number has its leading bit there. -/
theorem shifted_bounds (hn : n ≠ 0) :
    2 ^ 52 * 2 ^ (n.log2 - 52) ≤ n * 2 ^ (52 - n.log2) ∧
      n * 2 ^ (52 - n.log2) < 2 ^ 53 * 2 ^ (n.log2 - 52) := by
  have hlow : 2 ^ n.log2 ≤ n := Nat.log2_self_le hn
  have hhigh : n < 2 ^ (n.log2 + 1) := Nat.lt_log2_self
  constructor
  · calc 2 ^ 52 * 2 ^ (n.log2 - 52) = 2 ^ n.log2 * 2 ^ (52 - n.log2) := by
          rw [← Nat.pow_add, ← Nat.pow_add]
          congr 1
          omega
      _ ≤ n * 2 ^ (52 - n.log2) := Nat.mul_le_mul_right _ hlow
  · calc n * 2 ^ (52 - n.log2) < 2 ^ (n.log2 + 1) * 2 ^ (52 - n.log2) :=
          Nat.mul_lt_mul_of_pos_right hhigh (Nat.two_pow_pos _)
      _ = 2 ^ 53 * 2 ^ (n.log2 - 52) := by
          rw [← Nat.pow_add, ← Nat.pow_add]
          congr 1
          omega

/-- Rounding a number that has been shifted to its leading bits rounds the number itself. -/
theorem roundHalfEven_shifted (bits n : ℕ) :
    roundHalfEven (n * 2 ^ (bits - n.log2)) (2 ^ (n.log2 - bits)) * 2 ^ (n.log2 - bits) =
      roundToBits (bits + 1) n * 2 ^ (bits - n.log2) := by
  rw [roundToBits, Nat.add_sub_add_right]
  simp only [Nat.pow_eq]
  by_cases hbits : n.log2 ≤ bits
  · have hone (k : ℕ) : roundHalfEven k 1 = k := by
      simpa using (roundHalfEven_mul_eq_iff Nat.one_pos).2 (one_dvd k)
    rw [Nat.sub_eq_zero_of_le hbits, Nat.pow_zero, hone, hone, Nat.mul_one, Nat.mul_one]
  · rw [Nat.sub_eq_zero_of_le (not_le.1 hbits).le, Nat.pow_zero, Nat.mul_one, Nat.mul_one]

/-- The magnitude of a positive number: its leading 53 bits are the significand, which may
  have carried when the others were rounded off. -/
theorem exists_significand (negative : Bool) (hn : n ≠ 0) (hlog : n.log2 < 1023) :
    ∃ m : ℕ, 2 ^ 52 ≤ m ∧ m ≤ 2 ^ 53 ∧
      (m : ℚ) * 2 ^ ((n.log2 : ℤ) - 52) = roundToBits 53 n ∧
      (n.log2 + 1022) * 2 ^ 52 + m < infinityMagnitude ∧
      ofRatio negative n 1 = ofMagnitude negative ((n.log2 + 1022) * 2 ^ 52 + m) := by
  obtain ⟨m, hm⟩ : ∃ m, m = roundHalfEven (n * 2 ^ (52 - n.log2)) (2 ^ (n.log2 - 52)) := ⟨_, rfl⟩
  have hrest : m * 2 ^ (n.log2 - 52) = roundToBits 53 n * 2 ^ (52 - n.log2) :=
    hm ▸ roundHalfEven_shifted 52 n
  obtain ⟨hlow, hhigh⟩ := shifted_bounds hn
  have hmlow : 2 ^ 52 ≤ m := hm ▸ le_roundHalfEven (Nat.two_pow_pos _) hlow
  have hmhigh : m ≤ 2 ^ 53 := hm ▸ roundHalfEven_le (Nat.two_pow_pos _) hhigh.le
  have hright : ((n.log2 : ℤ) - 52).toNat = n.log2 - 52 := by omega
  have hleft : (-((n.log2 : ℤ) - 52)).toNat = 52 - n.log2 := by omega
  have hvalue : (m : ℚ) * 2 ^ ((n.log2 : ℤ) - 52) = roundToBits 53 n := by
    have hpow := Interval.pow_mul_pow_neg (b := 2) (by norm_num) ((n.log2 : ℤ) - 52)
    rw [hright, hleft] at hpow
    refine mul_right_cancel₀ (b := (2 : ℚ) ^ (52 - n.log2)) (by positivity) ?_
    rw [mul_assoc, hpow]
    exact_mod_cast hrest
  have hfinite : (n.log2 + 1022) * 2 ^ 52 + m < infinityMagnitude := by
    have hpow : infinityMagnitude = 2047 * 2 ^ 52 := rfl
    rw [hpow]
    omega
  refine ⟨m, hmlow, hmhigh, hvalue, hfinite, ?_⟩
  have hexponent : max ((n.log2 : ℤ) - 52) (-1074) = (n.log2 : ℤ) - 52 := by omega
  have hfield : ((n.log2 : ℤ) - 52 + 1074).toNat = n.log2 + 1022 := by omega
  rw [ofRatio, if_neg hn, binaryExponent_one hn]
  simp only [Nat.pow_eq]
  rw [hexponent, hright, hleft, one_mul, ← hm, hfield, min_eq_left hfinite.le]

/-- The double nearest to a natural number has the number's leading 53 bits, rounded. -/
theorem ofRatio_one (negative : Bool) (hlog : n.log2 < 1023) :
    (ofRatio negative n 1).isFinite = true ∧ (ofRatio negative n 1).isNegative = negative ∧
      (ofRatio negative n 1).abs = roundToBits 53 n := by
  have hinfinity : infinityMagnitude = 2047 * 2 ^ 52 := rfl
  by_cases hn : n = 0
  · obtain ⟨hmagnitude, hsign⟩ := ofMagnitude_fields (n := 0) negative (by decide)
    have hzero : ofRatio negative n 1 = ofMagnitude negative 0 := by rw [ofRatio, if_pos hn, zero]
    have hround : roundToBits 53 0 = 0 := by decide
    rw [isFinite, abs_eq_valueAt, hzero, hmagnitude, valueAt_zero, hn, hround]
    exact ⟨by decide, hsign, by norm_num⟩
  · obtain ⟨m, hlow, hhigh, hvalue, hfinite, hratio⟩ := exists_significand negative hn hlog
    obtain ⟨hmagnitude, hsign⟩ := ofMagnitude_fields
      (n := (n.log2 + 1022) * 2 ^ 52 + m) negative (by omega)
    have hexponent : ((n.log2 + 1022 : ℕ) : ℤ) - 1074 = (n.log2 : ℤ) - 52 := by omega
    rw [isFinite, abs_eq_valueAt, hratio, hmagnitude, valueAt_of_significand (.inr hlow) hhigh,
      hexponent]
    exact ⟨decide_eq_true hfinite, hsign, hvalue⟩

/-- A natural number with at most 53 significant bits is the magnitude of a double. -/
theorem ofRatio_exact (negative : Bool) (hlog : n.log2 < 1023)
    (hexact : roundToBits 53 n = n) :
    (ofRatio negative n 1).isFinite = true ∧ (ofRatio negative n 1).isNegative = negative ∧
      (ofRatio negative n 1).abs = n := by
  have hround := ofRatio_one negative hlog
  rwa [hexact] at hround

/-- An integer with at most 53 significant bits is a double. -/
theorem ofInt_exact {i : ℤ} (hlog : i.natAbs.log2 < 1023)
    (hexact : roundToBits 53 i.natAbs = i.natAbs) :
    (ofInt i).isFinite = true ∧ (ofInt i).abs = i.natAbs ∧ (ofInt i).value = i := by
  obtain ⟨hfinite, hsign, habs⟩ := ofRatio_exact (decide (i < 0)) hlog hexact
  refine ⟨hfinite, habs, ?_⟩
  have hvalue : (ofInt i).value = if i < 0 then -(i.natAbs : ℚ) else i.natAbs := by
    rw [value, ofInt, hsign, habs]
    simp only [decide_eq_true_eq]
  have hcast : (i.natAbs : ℚ) = ((i.natAbs : ℤ) : ℚ) := (Int.cast_natCast _).symm
  rw [hvalue, hcast, ← Int.cast_neg]
  split
  · have hi : -(i.natAbs : ℤ) = i := by omega
    rw [hi]
  · have hi : (i.natAbs : ℤ) = i := by omega
    rw [hi]

end Double

end EntityQuery
