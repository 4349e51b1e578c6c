import Mathlib.Data.Nat.Factorization.Basic
import EntityQuery.Proofs.Number.Digits
import EntityQuery.Proofs.Translation.Storing

/-!
# Integers in floating point columns

An integer is kept in a floating point column if it can be converted to the numbers of the
column and back without becoming another one. What decides is its odd part: the zeros at its
end cost nothing, the other bits have to fit the significand.

## Main definitions

- `Double.toInt64`, `Double.toSingle` — doubles truncated to integers and narrowed to 32 bits
- `ScalarType.KeepsInteger` — an integer comes back from the conversions of a column

## Main statements

- `Double.roundToBits_eq_iff_odd` — the bits of the odd part are the significant ones
- `Double.toInt64_ofInt_iff`, `Double.toSingle_ofInt_iff` — when nothing is lost on the way
- `StoredValue.isSome_ofExactInteger?_iff` — which integers are stored, and as what
-/

namespace EntityQuery

namespace Double

/-- The integer next to a double on the way to zero. Out of range it is the last integer on
  that side, and what is not a number becomes zero. -/
def toInt64 (x : Double) : Int64 :=
  let whole : ℤ := (x.numerator / x.denominator : ℕ)
  if x.isNaN then 0
  else .ofInt (max (-2 ^ 63) (min (2 ^ 63 - 1) (if x.isNegative then -whole else whole)))

/-- The number of the 32-bit format nearest to a double; of two nearest ones that with the
  even significand, and an infinity beyond the greatest one. -/
def toSingle (x : Double) : Double :=
  let q : ℤ := max (binaryExponent x.numerator x.denominator - 23) (-149)
  let m := roundHalfEven (x.numerator * 2 ^ (-q).toNat) (x.denominator * 2 ^ q.toNat)
  let rounded := ofRatio x.isNegative (m * 2 ^ q.toNat) (2 ^ (-q).toNat)
  if x.isNaN then x
  else if rounded.magnitude ≤ singleMaxMagnitude then rounded
  else ofMagnitude x.isNegative infinityMagnitude

-- ════════════════════════════════════════════════════════════════════════
-- Natural numbers
-- ════════════════════════════════════════════════════════════════════════

section Naturals

variable {x y : Double} {n : ℕ}

/-- A number has at most so many significant bits exactly if its odd part has. -/
theorem roundToBits_eq_iff_odd (precision : ℕ) :
    roundToBits precision n = n ↔ n = 0 ∨ ordCompl[2] n < 2 ^ precision := by
  by_cases hn : n = 0
  · have hzero : 2 ^ (Nat.log2 0 + 1 - precision) ∣ 0 := dvd_zero _
    simpa [hn] using roundToBits_eq_iff.2 hzero
  · have hodd : ordCompl[2] n < 2 ^ precision ↔ n.log2 < precision + n.factorization 2 := by
      rw [Nat.div_lt_iff_lt_mul (Nat.two_pow_pos _), ← Nat.pow_add, Nat.log2_lt hn]
    rw [roundToBits_eq_iff, Nat.prime_two.pow_dvd_iff_le_factorization hn, hodd]
    omega

theorem isNaN_of_isFinite (h : x.isFinite = true) : x.isNaN = false := by
  simp only [isFinite, isNaN, decide_eq_true_eq, decide_eq_false_iff_not] at h ⊢
  omega

theorem numericEq_self (h : x.isFinite = true) : x.numericEq x = true := by
  simp [numericEq, isNaN_of_isFinite h]

theorem abs_eq_of_numericEq (h : x.numericEq y = true) : x.abs = y.abs := by
  simp only [numericEq, Bool.and_eq_true, Bool.or_eq_true, beq_iff_eq] at h
  rcases h.2 with rfl | ⟨hx, hy⟩
  · rfl
  · simp only [isZero, beq_iff_eq] at hx hy
    rw [abs_eq_valueAt, abs_eq_valueAt, hx, hy]

theorem numerator_of_abs (h : x.abs = n) : x.numerator = n * x.denominator := by
  have hden : (x.denominator : ℚ) ≠ 0 := by exact_mod_cast denominator_ne_zero
  rw [abs_eq_ratio, div_eq_iff hden] at h
  exact_mod_cast h

theorem valueAt_singleMax : valueAt singleMaxMagnitude = singleMax := by
  norm_num [valueAt, binade, singleMaxMagnitude, singleMax]

/-- Narrowing a whole double that is not zero keeps its leading 24 bits. -/
theorem toSingle_of_abs (hfinite : x.isFinite = true) (hx : x.abs = n) (hn : n ≠ 0)
    (hlog : n.log2 < 127) : x.toSingle = ofRatio x.isNegative (roundToBits 24 n) 1 := by
  have hpos : 0 < x.denominator := denominator_pos
  have hexponent : binaryExponent x.numerator x.denominator = n.log2 := by
    calc binaryExponent x.numerator x.denominator
        = binaryExponent (n * x.denominator) (1 * x.denominator) := by
          rw [numerator_of_abs hx, Nat.one_mul]
      _ = binaryExponent n 1 := binaryExponent_mul_right hn one_ne_zero hpos.ne'
      _ = n.log2 := binaryExponent_one hn
  have hq : max ((n.log2 : ℤ) - 23) (-149) = (n.log2 : ℤ) - 23 := by omega
  have hright : ((n.log2 : ℤ) - 23).toNat = n.log2 - 23 := by omega
  have hleft : (-((n.log2 : ℤ) - 23)).toNat = 23 - n.log2 := by omega
  have hm : roundHalfEven (x.numerator * 2 ^ (23 - n.log2)) (x.denominator * 2 ^ (n.log2 - 23)) =
      roundHalfEven (n * 2 ^ (23 - n.log2)) (2 ^ (n.log2 - 23)) := by
    rw [numerator_of_abs hx, Nat.mul_right_comm, Nat.mul_comm x.denominator,
      roundHalfEven_mul_right _ _ hpos]
  have hrounded : ofRatio x.isNegative (roundToBits 24 n * 2 ^ (23 - n.log2)) (2 ^ (23 - n.log2)) =
      ofRatio x.isNegative (roundToBits 24 n) 1 := by
    have hscaled := ofRatio_mul_right x.isNegative (roundToBits 24 n) one_ne_zero
      (Nat.two_pow_pos (23 - n.log2)).ne'
    rwa [Nat.one_mul] at hscaled
  have hle : roundToBits 24 n ≤ 2 ^ 127 :=
    (roundToBits_le 24 n).trans (Nat.pow_le_pow_right (by decide) hlog)
  have hlog' : (roundToBits 24 n).log2 < 1023 := by
    have hcarry := log2_roundToBits_le 24 n
    omega
  have hinrange : (ofRatio x.isNegative (roundToBits 24 n) 1).magnitude ≤ singleMaxMagnitude := by
    have habs := (ofRatio_one x.isNegative hlog').2.2
    rw [roundToBits_roundToBits (by decide), abs_eq_valueAt] at habs
    apply valueAt_strictMono.le_iff_le.1
    rw [habs, valueAt_singleMax]
    have hcast : ((roundToBits 24 n : ℕ) : ℚ) ≤ 2 ^ 127 := by exact_mod_cast hle
    refine hcast.trans ?_
    norm_num [singleMax]
  rw [toSingle]
  simp only [hexponent, hq, hright, hleft, hm, roundHalfEven_shifted, hrounded,
    isNaN_of_isFinite hfinite, Bool.false_eq_true, ↓reduceIte, hinrange]

end Naturals

-- ════════════════════════════════════════════════════════════════════════
-- Integers of 64 bits
-- ════════════════════════════════════════════════════════════════════════

section Integers

variable {i : Int64}

theorem ofInt_parts (i : Int64) :
    (ofInt i.toInt).isFinite = true ∧ (ofInt i.toInt).isNegative = decide (i.toInt < 0) ∧
      (ofInt i.toInt).abs = roundToBits 53 i.toInt.natAbs :=
  ofRatio_one _ (log2_natAbs_toInt i)

theorem value_ofInt (i : Int64) :
    (ofInt i.toInt).value =
      ((if i.toInt < 0 then -(roundToBits 53 i.toInt.natAbs : ℤ)
        else roundToBits 53 i.toInt.natAbs : ℤ) : ℚ) := by
  obtain ⟨-, hsign, habs⟩ := ofInt_parts i
  rw [value, hsign, habs]
  simp only [decide_eq_true_eq]
  split
  · push_cast
    rfl
  · push_cast
    rfl

theorem roundToBits_natAbs_le (i : Int64) : roundToBits 53 i.toInt.natAbs ≤ 2 ^ 63 := by
  rcases (natAbs_toInt_le i).lt_or_eq with hlt | heq
  · by_cases hzero : i.toInt.natAbs = 0
    · rw [hzero]
      decide
    · have hlog : i.toInt.natAbs.log2 < 63 := (Nat.log2_lt hzero).2 hlt
      exact (roundToBits_le _ _).trans (Nat.pow_le_pow_right (by decide) hlog)
  · rw [heq]
    decide

theorem eq_natAbs_iff (i : ℤ) (k : ℕ) : (if i < 0 then -(k : ℤ) else k) = i ↔ k = i.natAbs := by
  split <;> omega

/-- An integer is truncated back to itself exactly if its double is the integer. The double
  of a number next to the greatest one is just out of range. -/
theorem toInt64_ofInt_iff (i : Int64) :
    (ofInt i.toInt).value < 2 ^ 63 ∧ (ofInt i.toInt).toInt64 = i ↔
      roundToBits 53 i.toInt.natAbs = i.toInt.natAbs := by
  obtain ⟨hfinite, hsign, habs⟩ := ofInt_parts i
  obtain ⟨z, hz⟩ : ∃ z : ℤ, z = if i.toInt < 0 then -(roundToBits 53 i.toInt.natAbs : ℤ)
    else roundToBits 53 i.toInt.natAbs := ⟨_, rfl⟩
  have hwhole : (ofInt i.toInt).numerator / (ofInt i.toInt).denominator =
      roundToBits 53 i.toInt.natAbs := by
    rw [numerator_of_abs habs, Nat.mul_div_cancel _ denominator_pos]
  have htruncated : (ofInt i.toInt).toInt64 = .ofInt (max (-2 ^ 63) (min (2 ^ 63 - 1) z)) := by
    rw [toInt64]
    simp only [isNaN_of_isFinite hfinite, hwhole, hsign, decide_eq_true_eq, ← hz,
      Bool.false_eq_true, ↓reduceIte]
  have hlow : -2 ^ 63 ≤ z := by
    have hle := roundToBits_natAbs_le i
    rw [hz]
    split <;> omega
  have hbelow : (ofInt i.toInt).value < 2 ^ 63 ↔ z < 2 ^ 63 := by
    rw [value_ofInt, ← hz]
    exact_mod_cast Iff.rfl
  rw [hbelow, htruncated, ← eq_natAbs_iff i.toInt, ← hz]
  constructor
  · rintro ⟨hhigh, hback⟩
    have hinrange : max (-2 ^ 63) (min (2 ^ 63 - 1) z) = z := by omega
    rw [hinrange] at hback
    rw [← hback, Int64.toInt_ofInt_of_le hlow hhigh]
  · intro hsame
    have hhigh : z < 2 ^ 63 := hsame ▸ i.toInt_lt
    have hinrange : max (-2 ^ 63) (min (2 ^ 63 - 1) z) = z := by omega
    rw [hinrange]
    exact ⟨hhigh, hsame ▸ Int64.ofInt_toInt i⟩

/-- The double of an integer is narrowed without loss exactly if 24 bits are enough. -/
theorem toSingle_ofInt_iff (hexact : roundToBits 53 i.toInt.natAbs = i.toInt.natAbs) :
    (ofInt i.toInt).toSingle.numericEq (ofInt i.toInt) = true ↔
      roundToBits 24 i.toInt.natAbs = i.toInt.natAbs := by
  obtain ⟨hfinite, hsign, habs⟩ := ofInt_parts i
  rw [hexact] at habs
  by_cases hzero : i.toInt.natAbs = 0
  · have hi : i.toInt = 0 := by omega
    rw [hi]
    decide +kernel
  · have hlog : i.toInt.natAbs.log2 < 64 :=
      (Nat.log2_lt hzero).2 ((natAbs_toInt_le i).trans_lt (by norm_num))
    have hsingle := toSingle_of_abs hfinite habs hzero (by omega)
    constructor
    · intro hsame
      have hlog' : (roundToBits 24 i.toInt.natAbs).log2 < 1023 := by
        have hcarry := log2_roundToBits_le 24 i.toInt.natAbs
        omega
      have hback := abs_eq_of_numericEq hsame
      rw [hsingle, habs, (ofRatio_one _ hlog').2.2, roundToBits_roundToBits (by decide)] at hback
      exact_mod_cast hback
    · intro hsame
      rw [hsingle, hsame, hsign]
      exact numericEq_self hfinite

end Integers

end Double

/-- An integer comes back from the conversions of a floating point column: as a double it is
  in range, truncated it is itself again, and narrowed for a column of single precision the
  double does not change. -/
structure ScalarType.KeepsInteger (type : ScalarType) (i : Int64) : Prop where
  inRange : (Double.ofInt i.toInt).value < 2 ^ 63
  truncated : (Double.ofInt i.toInt).toInt64 = i
  narrowed : type = .real →
    (Double.ofInt i.toInt).toSingle.numericEq (Double.ofInt i.toInt) = true

theorem ScalarType.keepsInteger_iff {type : ScalarType} (h : type.isFloating = true) (i : Int64) :
    type.KeepsInteger i ↔
      Double.roundToBits type.significantBits i.toInt.natAbs = i.toInt.natAbs := by
  constructor
  · intro hkeeps
    have hexact := (Double.toInt64_ofInt_iff i).1 ⟨hkeeps.inRange, hkeeps.truncated⟩
    cases type with
    | real => exact (Double.toSingle_ofInt_iff hexact).1 (hkeeps.narrowed rfl)
    | doublePrecision => exact hexact
    | _ => exact absurd h Bool.false_ne_true
  · intro hbits
    have hexact : Double.roundToBits 53 i.toInt.natAbs = i.toInt.natAbs :=
      Double.roundToBits_mono (by cases type <;> decide) hbits
    obtain ⟨hrange, htruncated⟩ := (Double.toInt64_ofInt_iff i).2 hexact
    refine ⟨hrange, htruncated, ?_⟩
    rintro rfl
    exact (Double.toSingle_ofInt_iff hexact).2 hbits

theorem StoredValue.isSome_ofExactInteger?_iff_odd {type : ScalarType}
    (h : type.isFloating = true) (i : Int64) :
    (ofExactInteger? type i).isSome = true ↔
      i = 0 ∨ ordCompl[2] i.toInt.natAbs < 2 ^ type.significantBits := by
  have hzero : i.toInt.natAbs = 0 ↔ i = 0 := by
    rw [Int.natAbs_eq_zero, ← Int64.toInt_zero, Int64.toInt_inj]
  rw [Option.isSome_iff_exists]
  simp only [ofExactInteger?_eq_some_iff, h, true_and, Double.roundToBits_eq_iff_odd, hzero]
  simp

/-- A floating point column takes the integers that come back from its conversions. These
  are zero and those whose odd part fits the significand, 53 bits or 24 bits, and they are
  stored as the doubles that they are. -/
theorem StoredValue.isSome_ofExactInteger?_iff (i : Int64) :
    ((ofExactInteger? .doublePrecision i).isSome = true ↔
        i = 0 ∨ ordCompl[2] i.toInt.natAbs < 2 ^ 53) ∧
      ((ofExactInteger? .real i).isSome = true ↔
        i = 0 ∨ ordCompl[2] i.toInt.natAbs < 2 ^ 24) ∧
      (∀ type, (ofExactInteger? type i).isSome = true ↔
        type.isFloating = true ∧ type.KeepsInteger i) ∧
      ∀ type stored, ofExactInteger? type i = some stored →
        ∃ x, stored = .double x ∧ x = Double.ofInt i.toInt ∧ x.isFinite = true ∧
          x.value = i.toInt := by
  refine ⟨isSome_ofExactInteger?_iff_odd rfl i, isSome_ofExactInteger?_iff_odd rfl i, ?_, ?_⟩
  · intro type
    rw [Option.isSome_iff_exists]
    simp only [ofExactInteger?_eq_some_iff, exists_and_left, exists_eq, and_true]
    exact and_congr_right fun h => (ScalarType.keepsInteger_iff h i).symm
  · intro type stored hstored
    obtain ⟨⟨-, hexact⟩, rfl⟩ := ofExactInteger?_eq_some_iff.1 hstored
    obtain ⟨hfinite, -, hvalue⟩ := Double.ofInt_of_accepted hexact
    exact ⟨_, rfl, rfl, hfinite, hvalue⟩

/-- The greatest integer becomes 2 ^ 63, which is truncated to the greatest integer. -/
example : (Double.ofInt Int64.maxValue.toInt).toInt64 = Int64.maxValue ∧
    (StoredValue.ofExactInteger? .doublePrecision Int64.maxValue).isNone = true := by
  decide +kernel

end EntityQuery
