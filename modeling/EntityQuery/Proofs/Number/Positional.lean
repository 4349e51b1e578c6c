import EntityQuery.Number.DecimalText
import EntityQuery.Number.Layout
import EntityQuery.Proofs.Number.Nearest

/-!
# Numbers written without an exponent

Integers and finite doubles are written as decimal numbers: digits, perhaps after a
minus sign and perhaps with a point among them. A decimal number has a value, and the
value of a written double rounds to that double, so two doubles written alike are the
same.

## Main definitions

- `DecimalText.IsDecimal` — the texts that are decimal numbers
- `DecimalText.Denotes` — a text without a sign is a decimal number of a certain value

## Main statements

- `DecimalText.isNumber_iff` — the check of decimal numbers accepts these texts
- `DecimalText.denotes_positionalChars` — where the point stands decides about the value
- `DecimalText.isDecimal_repr`, `Double.isDecimal_toText` — what numbers are written as
- `Double.toText_injective` — doubles written alike are the same
-/

namespace EntityQuery

namespace Text

/-- What a split leaves out is the separator. -/
theorem eq_of_splitOnce {separator : Char} {s before : List Char} {after : Option (List Char)}
    (h : splitOnce separator s = (before, after)) :
    s = before ++ (after.map (separator :: ·)).getD [] := by
  induction s generalizing before after with
  | nil =>
    cases h
    rfl
  | cons c rest ih =>
    rw [splitOnce] at h
    split at h
    · rename_i hc
      cases h
      rw [hc]
      rfl
    · obtain ⟨first, second, hrest⟩ : ∃ first second, splitOnce separator rest = (first, second) :=
        ⟨_, _, rfl⟩
      rw [hrest] at h
      cases h
      rw [List.cons_append, ← ih hrest]

end Text

-- ════════════════════════════════════════════════════════════════════════
-- Decimal numbers
-- ════════════════════════════════════════════════════════════════════════

namespace DecimalText

/-- A row of one or more digits. -/
def IsDigits (s : List Char) : Prop :=
  s ≠ [] ∧ ∀ c ∈ s, c.isDigit = true

/-- Digits, and optionally a point followed by further digits. -/
def IsUnsigned (s : List Char) : Prop :=
  IsDigits s ∨ ∃ whole places, s = whole ++ '.' :: places ∧ IsDigits whole ∧ IsDigits places

/-- A decimal number: an optional minus sign, digits, and optionally a point followed
  by further digits. -/
def IsDecimal (s : String) : Prop :=
  IsUnsigned s.toList ∨ ∃ rest, s.toList = '-' :: rest ∧ IsUnsigned rest

theorem isDigitRow_iff {s : List Char} : isDigitRow s = true ↔ IsDigits s := by
  simp [isDigitRow, IsDigits]

theorem IsDigits.point_not_mem {s : List Char} (h : IsDigits s) : '.' ∉ s := by
  intro hpoint
  exact absurd (h.2 _ hpoint) (by decide)

theorem IsDigits.append {s t : List Char} (hs : IsDigits s) (ht : ∀ c ∈ t, c.isDigit = true) :
    IsDigits (s ++ t) := by
  refine ⟨by simp [hs.1], ?_⟩
  intro c hc
  rcases List.mem_append.1 hc with hc | hc
  · exact hs.2 c hc
  · exact ht c hc

theorem IsDigits.exists_cons {s : List Char} (h : IsDigits s) :
    ∃ c tail, s = c :: tail ∧ c.isDigit = true := by
  cases s with
  | nil => exact absurd rfl h.1
  | cons c tail => exact ⟨c, tail, rfl, h.2 c List.mem_cons_self⟩

theorem isDigits_toDigits (n : ℕ) : IsDigits (Nat.toDigits 10 n) :=
  ⟨Nat.toDigits_ne_nil, fun _ => Nat.isDigit_of_mem_toDigits (by decide) (by decide)⟩

theorem isDigits_zero : IsDigits ['0'] :=
  isDigits_toDigits 0

theorem isDigit_of_mem_replicate {c : Char} {n : ℕ} (hc : c ∈ List.replicate n '0') :
    c.isDigit = true := by
  rw [List.eq_of_mem_replicate hc]
  rfl

theorem IsUnsigned.not_minus {rest : List Char} : ¬ IsUnsigned ('-' :: rest) := by
  rintro (hdigits | ⟨whole, places, heq, hwhole, -⟩)
  · exact absurd (hdigits.2 '-' List.mem_cons_self) (by decide)
  · cases whole with
    | nil => exact hwhole.1 rfl
    | cons c more =>
      obtain ⟨rfl, -⟩ := List.cons.inj heq
      exact absurd (hwhole.2 '-' List.mem_cons_self) (by decide)

/-- Splitting at the point decides whether a text is a number, apart from its sign. -/
theorem isNumber_iff_dropSign {s : String} :
    isNumber s = true ↔ IsUnsigned (dropSign s.toList) := by
  rw [isNumber]
  constructor
  · intro h
    split at h
    · rename_i whole hsplit
      have hwhole : dropSign s.toList = whole := by simpa using Text.eq_of_splitOnce hsplit
      rw [hwhole]
      exact .inl (isDigitRow_iff.1 h)
    · rename_i whole places hsplit
      rw [Bool.and_eq_true] at h
      exact .inr ⟨whole, places, Text.eq_of_splitOnce hsplit, isDigitRow_iff.1 h.1,
        isDigitRow_iff.1 h.2⟩
  · rintro (hdigits | ⟨whole, places, hs, hwhole, hplaces⟩)
    · rw [Text.splitOnce_of_not_mem hdigits.point_not_mem]
      exact isDigitRow_iff.2 hdigits
    · rw [hs, Text.splitOnce_append hwhole.point_not_mem]
      show (isDigitRow whole && isDigitRow places) = true
      rw [Bool.and_eq_true]
      exact ⟨isDigitRow_iff.2 hwhole, isDigitRow_iff.2 hplaces⟩

/-- The check of decimal numbers accepts these texts and no others. -/
theorem isNumber_iff {s : String} : isNumber s = true ↔ IsDecimal s := by
  rw [isNumber_iff_dropSign, IsDecimal]
  unfold dropSign
  split
  · rename_i rest hs
    simp [hs, IsUnsigned.not_minus]
  · rename_i hs
    constructor
    · exact .inl
    · rintro (h | ⟨rest, hrest, -⟩)
      · exact h
      · exact absurd hrest (hs rest)

theorem isDecimal_repr (i : ℤ) : IsDecimal (Int.repr i) := by
  rw [IsDecimal, Int.repr_eq_if]
  split
  · rw [Nat.toList_repr]
    exact .inl (.inl (isDigits_toDigits _))
  · rw [String.toList_append, Nat.toList_repr]
    exact .inr ⟨_, rfl, .inl (isDigits_toDigits _)⟩

-- ════════════════════════════════════════════════════════════════════════
-- Digits around a point
-- ════════════════════════════════════════════════════════════════════════

/-- The number that a text without a sign stands for. -/
def unsignedValue (s : List Char) : ℚ :=
  match Text.splitOnce '.' s with
  | (whole, none) => Nat.ofDigitChars 10 whole 0
  | (whole, some places) => Nat.ofDigitChars 10 (whole ++ places) 0 / 10 ^ places.length

/-- Characters are a decimal number without a sign, and this is its value. -/
def Denotes (s : List Char) (r : ℚ) : Prop :=
  IsUnsigned s ∧ unsignedValue s = r

theorem denotes_digits {s : List Char} (h : IsDigits s) :
    Denotes s (Nat.ofDigitChars 10 s 0) := by
  refine ⟨.inl h, ?_⟩
  rw [unsignedValue, Text.splitOnce_of_not_mem h.point_not_mem]

theorem denotes_point {whole places : List Char} (hwhole : IsDigits whole)
    (hplaces : IsDigits places) :
    Denotes (whole ++ '.' :: places)
      (Nat.ofDigitChars 10 (whole ++ places) 0 * 10 ^ (-(places.length : ℤ))) := by
  refine ⟨.inr ⟨whole, places, rfl, hwhole, hplaces⟩, ?_⟩
  rw [unsignedValue, Text.splitOnce_append hwhole.point_not_mem, zpow_neg, zpow_natCast]
  exact div_eq_mul_inv _ _

section Digits

variable {digits : List Char} {k : ℕ}

/-- Without a point, zeros fill up the places of the digits that are not there. -/
theorem denotes_whole (h : IsDigits digits) :
    Denotes (digits ++ List.replicate k '0') (Nat.ofDigitChars 10 digits 0 * 10 ^ (k : ℤ)) := by
  have hvalue : (Nat.ofDigitChars 10 (digits ++ List.replicate k '0') 0 : ℚ) =
      Nat.ofDigitChars 10 digits 0 * 10 ^ (k : ℤ) := by
    rw [Nat.ofDigitChars_append, Nat.ofDigitChars_replicate_zero, zpow_natCast]
    push_cast
    ring
  rw [← hvalue]
  exact denotes_digits (h.append fun _ => isDigit_of_mem_replicate)

/-- The point stands among the digits. -/
theorem denotes_among (h : IsDigits digits) (hpos : 0 < k) (hk : k < digits.length) :
    Denotes (digits.take (digits.length - k) ++ '.' :: digits.drop (digits.length - k))
      (Nat.ofDigitChars 10 digits 0 * 10 ^ (-(k : ℤ))) := by
  have hlength : (digits.drop (digits.length - k)).length = k := by
    rw [List.length_drop]
    omega
  have hwhole : IsDigits (digits.take (digits.length - k)) := by
    refine ⟨?_, fun c hc => h.2 c (List.mem_of_mem_take hc)⟩
    rw [← List.length_pos_iff, List.length_take]
    omega
  have hplaces : IsDigits (digits.drop (digits.length - k)) := by
    refine ⟨?_, fun c hc => h.2 c (List.mem_of_mem_drop hc)⟩
    rwa [← List.length_pos_iff, hlength]
  have hdenotes := denotes_point hwhole hplaces
  rwa [List.take_append_drop, hlength] at hdenotes

/-- The point stands before the digits, after a zero. -/
theorem denotes_before (h : IsDigits digits) (hk : digits.length ≤ k) :
    Denotes ('0' :: '.' :: (List.replicate (k - digits.length) '0' ++ digits))
      (Nat.ofDigitChars 10 digits 0 * 10 ^ (-(k : ℤ))) := by
  have hlength : (List.replicate (k - digits.length) '0' ++ digits).length = k := by
    rw [List.length_append, List.length_replicate]
    omega
  have hplaces : IsDigits (List.replicate (k - digits.length) '0' ++ digits) := by
    refine ⟨by simp [h.1], ?_⟩
    intro c hc
    rcases List.mem_append.1 hc with hc | hc
    · exact isDigit_of_mem_replicate hc
    · exact h.2 c hc
  have hdenotes := denotes_point isDigits_zero hplaces
  rwa [hlength, Nat.ofDigitChars_append, Nat.ofDigitChars_append,
    Nat.ofDigitChars_replicate_zero] at hdenotes

/-- Digits with a point at its place denote what the digits do, times a power of ten. -/
theorem denotes_positionalChars (h : IsDigits digits) (last : ℤ) :
    Denotes (Layout.plain.positionalChars digits last)
      (Nat.ofDigitChars 10 digits 0 * 10 ^ last) := by
  rw [Layout.positionalChars]
  by_cases hlast : 0 ≤ last
  · rw [if_pos hlast]
    obtain ⟨k, rfl⟩ := Int.eq_ofNat_of_zero_le hlast
    show Denotes (digits ++ List.replicate k '0' ++ []) _
    rw [List.append_nil]
    exact denotes_whole h
  · rw [if_neg hlast]
    obtain ⟨k, rfl⟩ : ∃ k : ℕ, last = -(k : ℤ) := ⟨(-last).toNat, by omega⟩
    simp only [neg_neg, Int.toNat_natCast]
    split
    · rename_i hk
      exact denotes_among h (by omega) hk
    · rename_i hk
      exact denotes_before h (by omega)

end Digits

end DecimalText

-- ════════════════════════════════════════════════════════════════════════
-- Doubles
-- ════════════════════════════════════════════════════════════════════════

namespace Double

open DecimalText

variable {x y : Double}

theorem magnitudeChars_zero (hx : x.magnitude = 0) : x.magnitudeChars .plain = ['0'] := by
  rw [magnitudeChars, isZero, hx]
  rfl

theorem magnitudeChars_plain (hx : x.magnitude ≠ 0) :
    x.magnitudeChars .plain = Layout.plain.positionalChars
      (Nat.toDigits 10 (x.shortest .up).coefficient) (x.shortest .up).exponent := by
  rw [magnitudeChars, isZero, if_neg (by simpa using hx)]
  rfl

theorem isUnsigned_magnitudeChars : IsUnsigned (x.magnitudeChars .plain) := by
  by_cases hx : x.magnitude = 0
  · rw [magnitudeChars_zero hx]
    exact .inl isDigits_zero
  · rw [magnitudeChars_plain hx]
    exact (denotes_positionalChars (isDigits_toDigits _) _).1

/-- The value of a written magnitude rounds to it. -/
theorem roundsTo_magnitudeChars (hx : x.magnitude ≠ 0) :
    RoundsTo (unsignedValue (x.magnitudeChars .plain)) x.magnitude := by
  rw [magnitudeChars_plain hx, (denotes_positionalChars (isDigits_toDigits _) _).2,
    Nat.ofDigitChars_ten_toDigits]
  exact roundsTo_shortest .up hx

theorem unsignedValue_eq_zero_iff :
    unsignedValue (x.magnitudeChars .plain) = 0 ↔ x.magnitude = 0 := by
  constructor
  · intro hvalue
    by_contra hx
    have hpos := (roundsTo_magnitudeChars hx).pos
    rw [hvalue] at hpos
    exact lt_irrefl 0 hpos
  · intro hx
    rw [magnitudeChars_zero hx, (denotes_digits isDigits_zero).2]
    norm_num [Nat.ofDigitChars]

theorem magnitude_eq_of_chars (h : x.magnitudeChars .plain = y.magnitudeChars .plain) :
    x.magnitude = y.magnitude := by
  have hzero : x.magnitude = 0 ↔ y.magnitude = 0 := by
    rw [← unsignedValue_eq_zero_iff, h, unsignedValue_eq_zero_iff]
  by_cases hx : x.magnitude = 0
  · rw [hx, hzero.1 hx]
  · have hround := roundsTo_magnitudeChars hx
    rw [h] at hround
    exact hround.unique (roundsTo_magnitudeChars (mt hzero.2 hx))

theorem toList_toText {layout : Layout} (hx : x.isFinite = true) :
    (x.toText layout).toList =
      if x.isNegative then '-' :: x.magnitudeChars layout else x.magnitudeChars layout := by
  have hnan : ¬ x.isNaN = true := by
    rw [isFinite, decide_eq_true_eq] at hx
    rw [isNaN, decide_eq_true_eq]
    omega
  rw [toText, if_neg hnan, if_pos hx, String.toList_ofList]

theorem isDecimal_toText (hx : x.isFinite = true) : IsDecimal (x.toText .plain) := by
  rw [IsDecimal, toList_toText hx]
  split
  · exact .inr ⟨_, rfl, isUnsigned_magnitudeChars⟩
  · exact .inl isUnsigned_magnitudeChars

/-- Finite doubles that are written alike are the same, signs of zero included. -/
theorem toText_injective (hx : x.isFinite = true) (hy : y.isFinite = true)
    (h : x.toText .plain = y.toText .plain) : x = y := by
  have hchars := congrArg String.toList h
  rw [toList_toText hx, toList_toText hy] at hchars
  -- No magnitude starts with a minus sign, so the signs are the same.
  split at hchars <;> split at hchars
  · rename_i hnx hny
    exact eq_of_magnitude_eq (hnx.trans hny.symm)
      (magnitude_eq_of_chars (List.cons.inj hchars).2)
  · have hunsigned := isUnsigned_magnitudeChars (x := y)
    rw [← hchars] at hunsigned
    exact absurd hunsigned IsUnsigned.not_minus
  · have hunsigned := isUnsigned_magnitudeChars (x := x)
    rw [hchars] at hunsigned
    exact absurd hunsigned IsUnsigned.not_minus
  · rename_i hnx hny
    rw [Bool.not_eq_true] at hnx hny
    exact eq_of_magnitude_eq (hnx.trans hny.symm) (magnitude_eq_of_chars hchars)

end Double

end EntityQuery
