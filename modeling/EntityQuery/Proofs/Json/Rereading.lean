import EntityQuery.Proofs.Json.Numbers

/-!
# Numbers that are read back exactly

A reader takes the digits of a number for a double and multiplies or divides it by a power
of ten. If both of them are doubles themselves, the only rounding is that of the written
decimal, which rounds to the double it was written for. Otherwise a neighbour may be read,
but the text of a finite double never gets out of range.

## Main definitions

- `Double.IsShort` — the digits of a written double and their power of ten are doubles

## Main statements

- `Double.mul_eq_of_roundsTo`, `Double.div_eq_of_roundsTo` — products and quotients
- `Json.scaled?_of_exact` — a decimal whose digits and whose power of ten are doubles
- `Double.IsShort.reread?_eq` — a double that is short is read back as it was
- `Double.isSome_reread?` — a finite double is read back as some double
-/

namespace EntityQuery

namespace Double

variable {x y : Double} {n : ℕ}

/-- A product of doubles is the double that the product of their values rounds to. -/
theorem mul_eq_of_roundsTo (h : RoundsTo (x.abs * y.abs) n) (hn : n ≠ 0)
    (hfinite : n < infinityMagnitude) :
    x.mul y = ofMagnitude (x.isNegative != y.isNegative) n := by
  rw [abs_eq_ratio, abs_eq_ratio, div_mul_div_comm] at h
  refine ofRatio_eq_of_roundsTo _ (Nat.mul_ne_zero denominator_ne_zero denominator_ne_zero) ?_ hn
    hfinite
  exact_mod_cast h

/-- A quotient of doubles is the double that the quotient of their values rounds to. -/
theorem div_eq_of_roundsTo (h : RoundsTo (x.abs / y.abs) n) (hn : n ≠ 0)
    (hfinite : n < infinityMagnitude) :
    x.div y = ofMagnitude (x.isNegative != y.isNegative) n := by
  have hnum : y.numerator ≠ 0 := by
    intro hzero
    have hpos := h.pos
    simp [abs_eq_ratio, hzero] at hpos
  rw [abs_eq_ratio, abs_eq_ratio, div_div_div_eq] at h
  refine ofRatio_eq_of_roundsTo _ (Nat.mul_ne_zero denominator_ne_zero hnum) ?_ hn hfinite
  exact_mod_cast h

theorem ofNat_exact (hlog : n.log2 < 1023) (h : roundToBits 53 n = n) :
    (ofNat n).isNegative = false ∧ (ofNat n).abs = n :=
  (ofRatio_exact false hlog h).2

theorem ofMagnitude_self : ofMagnitude x.isNegative x.magnitude = x := by
  have hmagnitude : x.magnitude < 2 ^ 63 := Nat.mod_lt _ (Nat.two_pow_pos 63)
  obtain ⟨hsame, hsign⟩ := ofMagnitude_fields x.isNegative hmagnitude
  exact eq_of_magnitude_eq hsign hsame

theorem neg_ofMagnitude (negative : Bool) (hn : n < 2 ^ 63) :
    (ofMagnitude negative n).neg = ofMagnitude (!negative) n := by
  obtain ⟨hmagnitude, hsign⟩ := ofMagnitude_fields negative hn
  rw [neg, hmagnitude, hsign]

theorem isNegative_ofRatio (negative : Bool) (num den : ℕ) :
    (ofRatio negative num den).isNegative = negative := by
  have hinfinity : infinityMagnitude = 2047 * 2 ^ 52 := rfl
  rw [ofRatio]
  split
  · exact (ofMagnitude_fields negative (by norm_num)).2
  · exact (ofMagnitude_fields negative ((min_le_right _ _).trans_lt (by norm_num [hinfinity]))).2

theorem isNegative_neg : x.neg.isNegative = !x.isNegative :=
  (ofMagnitude_fields _ (Nat.mod_lt _ (Nat.two_pow_pos 63))).2

end Double

namespace Json

open Double

-- ════════════════════════════════════════════════════════════════════════
-- Powers of ten
-- ════════════════════════════════════════════════════════════════════════

theorem isNegative_scaleDown {x : Double} (hx : x.isNegative = false) (rounds n : ℕ) :
    (scaleDown x rounds n).isNegative = false := by
  have hdiv : ∀ {x : Double}, x.isNegative = false → ∀ k,
      (x.div (powerOfTen k)).isNegative = false := by
    intro x hx k
    rw [div, isNegative_ofRatio, hx, powerOfTen, ofNat, isNegative_ofRatio]
    rfl
  induction rounds generalizing x n with
  | zero => exact hdiv hx n
  | succ rounds ih =>
    rw [scaleDown]
    split
    · exact hx
    · exact ih (hdiv hx 308) _

theorem isNegative_of_scaled? {c : ℕ} {e : ℤ} {y : Double} (h : scaled? c e = some y) :
    y.isNegative = false := by
  have hnat : ∀ k, (ofNat k).isNegative = false := fun k => isNegative_ofRatio false k 1
  rw [scaled?] at h
  dsimp only at h
  split at h
  · cases h
    exact isNegative_scaleDown (hnat c) _ _
  · split at h
    · split at h
      · cases h
        exact hnat c
      · cases h
    · split at h
      · cases h
        rw [mul, isNegative_ofRatio, hnat, powerOfTen, hnat]
        rfl
      · cases h

theorem powerOfTen_exact {k : ℕ} (hk : k ≤ 22) :
    (powerOfTen k).isNegative = false ∧ (powerOfTen k).abs = 10 ^ k := by
  have hbits : ∀ i < 23, roundToBits 53 (Nat.pow 10 i) = Nat.pow 10 i := by decide +kernel
  have hlog : ∀ i < 23, (Nat.pow 10 i).log2 < 1023 := by decide +kernel
  obtain ⟨hsign, habs⟩ := ofNat_exact (hlog k (by omega)) (hbits k (by omega))
  refine ⟨hsign, ?_⟩
  rw [powerOfTen, habs, Nat.pow_eq]
  exact Nat.cast_pow 10 k

/-- A decimal becomes the double it rounds to if its digits fit a significand and its power
  of ten is a double. -/
theorem scaled?_of_exact {c n : ℕ} {e : ℤ} (hmax : c ≤ maxNatural) (hc : roundToBits 53 c = c)
    (he : e.natAbs ≤ 22) (h : RoundsTo (c * 10 ^ e) n) (hn : n ≠ 0)
    (hfinite : n < infinityMagnitude) : scaled? c e = some (ofMagnitude false n) := by
  have hlog : c.log2 < 1023 := by
    have hc0 : c ≠ 0 := by
      rintro rfl
      simpa using h.pos
    exact (Nat.log2_lt hc0).2 (hmax.trans_lt (by decide +kernel))
  obtain ⟨hsign, habs⟩ := ofNat_exact hlog hc
  obtain ⟨hpowerSign, hpower⟩ := powerOfTen_exact he
  have hfields := ofMagnitude_fields (n := n) false (by
    have hinfinity : infinityMagnitude = 2047 * 2 ^ 52 := rfl
    omega)
  rw [scaled?]
  dsimp only
  split
  · rename_i hneg
    have hrounds : (e.natAbs - 1) / 308 = 0 := by omega
    have hvalue : (c : ℚ) * 10 ^ e = (ofNat c).abs / (powerOfTen e.natAbs).abs := by
      have hexponent : e = -(e.natAbs : ℤ) := by omega
      rw [habs, hpower, hexponent, zpow_neg, zpow_natCast, Int.natAbs_neg, Int.natAbs_natCast]
      rfl
    rw [hvalue] at h
    rw [hrounds, scaleDown, div_eq_of_roundsTo h hn hfinite, hsign, hpowerSign]
    rfl
  · rename_i hnonneg
    have hvalue : (c : ℚ) * 10 ^ e = (ofNat c).abs * (powerOfTen e.natAbs).abs := by
      have hexponent : e = (e.natAbs : ℤ) := by omega
      rw [habs, hpower, hexponent, zpow_natCast, Int.natAbs_natCast]
    rw [hvalue] at h
    have hisFinite : (ofMagnitude false n).isFinite = true := by
      rw [isFinite, hfields.1]
      exact decide_eq_true hfinite
    rw [if_neg (by omega), mul_eq_of_roundsTo h hn hfinite, hsign, hpowerSign]
    exact if_pos hisFinite

/-- A few steps below the greatest double there is room for the errors of two roundings. -/
theorem midpoint_below_greatest :
    (1 + 1 / 2 ^ 53) * (1 + 1 / 2 ^ 53) * midpoint (infinityMagnitude - 5) <
      midpoint (infinityMagnitude - 1) := by
  have hfifth : infinityMagnitude - 5 = 2045 * 2 ^ 52 + (2 ^ 53 - 5) := rfl
  have hfirst : infinityMagnitude - 1 = 2045 * 2 ^ 52 + (2 ^ 53 - 1) := rfl
  rw [hfifth, hfirst, midpoint_of_significand (.inr (by norm_num)) (by norm_num),
    midpoint_of_significand (.inr (by norm_num)) (by norm_num), ← mul_assoc]
  exact mul_lt_mul_of_pos_right (by norm_num) (by positivity)

theorem midpoint_lt_ten_pow {n : ℕ} (hn : n < infinityMagnitude) : midpoint n < 10 ^ 309 := by
  have hpow : 2 ^ 1024 < 10 ^ 309 := by decide +kernel
  calc midpoint n < valueAt (n + 1) := midpoint_lt_valueAt n
    _ ≤ valueAt infinityMagnitude := valueAt_strictMono.monotone hn
    _ = 2 ^ 1024 := valueAt_infinity
    _ < 10 ^ 309 := by exact_mod_cast hpow

/-- Digits and their power of ten have a finite product a few steps below the greatest
  double. -/
theorem isFinite_mul_powerOfTen {c k : ℕ} (hc : c ≠ 0)
    (h : (c : ℚ) * 10 ^ k ≤ midpoint (infinityMagnitude - 5)) :
    ((ofNat c).mul (powerOfTen k)).isFinite = true := by
  have hone : (1 : ℚ) ≤ c := by exact_mod_cast Nat.one_le_iff_ne_zero.2 hc
  have hten : (1 : ℚ) ≤ 10 ^ k := one_le_pow₀ (by norm_num)
  have hgreatest : midpoint (infinityMagnitude - 5) < midpoint (infinityMagnitude - 1) :=
    midpoint_strictMono (by decide)
  have hdigits : (ofNat c).abs ≤ (1 + 1 / 2 ^ 53) * c := by
    refine abs_ofNat_le hc (lt_of_le_of_lt ?_ hgreatest)
    exact (le_mul_of_one_le_right (by positivity) hten).trans h
  have hpower : (powerOfTen k).abs ≤ (1 + 1 / 2 ^ 53) * 10 ^ k := by
    have hcast : ((Nat.pow 10 k : ℕ) : ℚ) = 10 ^ k := Nat.cast_pow 10 k
    rw [powerOfTen, ← hcast]
    refine abs_ofNat_le (Nat.pow_pos (by norm_num)).ne' (lt_of_le_of_lt ?_ hgreatest)
    rw [hcast]
    exact (le_mul_of_one_le_left (by positivity) hone).trans h
  refine isFinite_ofRatio _ (Nat.mul_ne_zero denominator_ne_zero denominator_ne_zero) ?_
  rw [Nat.cast_mul, Nat.cast_mul, ← div_mul_div_comm, ← abs_eq_ratio, ← abs_eq_ratio]
  have hnonneg : 0 ≤ (powerOfTen k).abs := by
    rw [Double.abs]
    positivity
  calc (ofNat c).abs * (powerOfTen k).abs
      ≤ ((1 + 1 / 2 ^ 53) * c) * ((1 + 1 / 2 ^ 53) * 10 ^ k) :=
        mul_le_mul hdigits hpower hnonneg (by positivity)
    _ = (1 + 1 / 2 ^ 53) * (1 + 1 / 2 ^ 53) * (c * 10 ^ k) := by ring
    _ ≤ (1 + 1 / 2 ^ 53) * (1 + 1 / 2 ^ 53) * midpoint (infinityMagnitude - 5) := by gcongr
    _ < midpoint (infinityMagnitude - 1) := midpoint_below_greatest

/-- A decimal a few steps below the greatest double is in range. -/
theorem isSome_scaled? {c : ℕ} {e : ℤ} (hc : c ≠ 0)
    (h : (c : ℚ) * 10 ^ e ≤ midpoint (infinityMagnitude - 5)) : (scaled? c e).isSome = true := by
  rw [scaled?]
  dsimp only
  split
  · rfl
  · rename_i hnonneg
    obtain ⟨k, rfl⟩ := Int.eq_ofNat_of_zero_le (not_lt.1 hnonneg)
    rw [zpow_natCast] at h
    have hk : ¬ 308 < k := by
      intro hlt
      have hone : (1 : ℚ) ≤ c := by exact_mod_cast Nat.one_le_iff_ne_zero.2 hc
      have hlimit : midpoint (infinityMagnitude - 5) < 10 ^ 309 := midpoint_lt_ten_pow (by decide)
      have hpow : (10 : ℚ) ^ 309 ≤ 10 ^ k := pow_le_pow_right₀ (by norm_num) hlt
      have hle : (10 : ℚ) ^ k ≤ c * 10 ^ k := le_mul_of_one_le_left (by positivity) hone
      exact (hpow.trans (hle.trans h)).not_gt hlimit
    rw [Int.natAbs_natCast, if_neg hk, if_pos (isFinite_mul_powerOfTen hc h)]
    rfl

theorem value_withPlace {d : Decimal} : (withPlace d).value = d.value := by
  rw [withPlace]
  split
  · rename_i hwhole
    obtain ⟨k, hk⟩ := Int.eq_ofNat_of_zero_le hwhole.1
    rw [Decimal.value, Decimal.value, hk, Int.toNat_natCast, zpow_neg_one, zpow_natCast]
    push_cast
    rw [pow_succ]
    field_simp
  · rfl

end Json

namespace Double

open Json

variable {x : Double}

theorem roundsTo_written (hx : x.magnitude ≠ 0) : RoundsTo x.written.value x.magnitude := by
  rw [written_shortest hx, value_withPlace]
  exact roundsTo_shortest .even hx

theorem scaled?_zero : scaled? 0 (-1) = some (ofMagnitude false 0) := by
  decide +kernel

theorem isNegative_of_reread? {y : Double} (h : x.reread? = some y) :
    y.isNegative = x.isNegative := by
  obtain ⟨z, hz, rfl⟩ := Option.map_eq_some_iff.1 h
  have hsign := isNegative_of_scaled? hz
  cases x.isNegative with
  | true => rw [if_pos rfl, isNegative_neg, hsign]; rfl
  | false => rw [if_neg Bool.false_ne_true, hsign]

/-- The digits in the JSON text of a double fit a significand, and their power of ten is a
  double itself. -/
def IsShort (x : Double) : Prop :=
  roundToBits 53 x.written.coefficient = x.written.coefficient ∧ x.written.exponent.natAbs ≤ 22

instance (x : Double) : Decidable x.IsShort :=
  inferInstanceAs (Decidable (_ ∧ _))

theorem isShort_zero (hx : x.magnitude = 0) : x.IsShort := by
  rw [IsShort, written_zero hx]
  decide

/-- A finite double whose text is short is read back as it was. -/
theorem IsShort.reread?_eq (h : x.IsShort) (hx : x.isFinite = true) : x.reread? = some x := by
  obtain ⟨hbits, hexponent⟩ := h
  have hfinite : x.magnitude < infinityMagnitude := of_decide_eq_true hx
  have hinfinity : infinityMagnitude = 2047 * 2 ^ 52 := rfl
  have hscaled : scaled? x.written.coefficient x.written.exponent =
      some (ofMagnitude false x.magnitude) := by
    by_cases hzero : x.magnitude = 0
    · rw [written_zero hzero, hzero]
      exact scaled?_zero
    · exact scaled?_of_exact coefficient_written_le hbits hexponent (roundsTo_written hzero) hzero
        hfinite
  have hneg : (ofMagnitude false x.magnitude).neg = ofMagnitude true x.magnitude :=
    neg_ofMagnitude false (by omega)
  have hself := ofMagnitude_self (x := x)
  rw [reread?, hscaled, Option.map_some]
  cases hsign : x.isNegative with
  | true =>
    rw [hsign] at hself
    rw [if_pos rfl, hneg, hself]
  | false =>
    rw [hsign] at hself
    rw [if_neg Bool.false_ne_true, hself]

/-- The greatest doubles are read back, though there is no room for two roundings. -/
theorem isSome_reread?_greatest : ∀ negative : Bool, ∀ i < 4,
    ((ofMagnitude negative (infinityMagnitude - 1 - i)).reread?).isSome = true := by
  decide +kernel

/-- The text of a finite double is never out of range. -/
theorem isSome_reread? (hx : x.isFinite = true) : x.reread?.isSome = true := by
  have hfinite : x.magnitude < infinityMagnitude := of_decide_eq_true hx
  by_cases hzero : x.magnitude = 0
  · rw [(isShort_zero hzero).reread?_eq hx]
    rfl
  by_cases hroom : x.magnitude ≤ infinityMagnitude - 5
  · have hrounds := roundsTo_written hzero
    have hc : x.written.coefficient ≠ 0 := by
      intro hc
      have hpos := hrounds.pos
      simp [Decimal.value, hc] at hpos
    have hle : x.written.value ≤ midpoint (infinityMagnitude - 5) :=
      hrounds.le.2.trans (midpoint_strictMono.monotone hroom)
    rw [reread?, Option.isSome_map]
    exact isSome_scaled? hc hle
  · obtain ⟨i, hi, hmagnitude⟩ : ∃ i, i < 4 ∧ x.magnitude = infinityMagnitude - 1 - i :=
      ⟨infinityMagnitude - 1 - x.magnitude, by omega, by omega⟩
    have hgreatest := isSome_reread?_greatest x.isNegative i hi
    rwa [← hmagnitude, ofMagnitude_self] at hgreatest

end Double

end EntityQuery
