import EntityQuery.Json.Scan
import EntityQuery.Proofs.Number.Digits
import EntityQuery.Proofs.Number.Positional

/-!
# Reading numbers that were written

The JSON text of a finite double is digits around a point, with an exponent if the number is
very large or very small. A reader takes it for the decimal as it stands: the digits, which
fit 64 bits, and the place of the last one.

## Main definitions

- `Json.EndsNumber` — what a number may stand in front of
- `Json.Spells` — digits around a point stand for a decimal
- `Json.withPlace`, `Double.written` — the decimal that is written for a double
- `Double.reread?` — the double that is read from the text of another

## Main statements

- `Json.scanMagnitude_decimalChars` — a decimal is read as it is written
- `Double.scanNumber_toText` — a finite double is read up to what follows it
-/

namespace EntityQuery

namespace Json

open DecimalText

-- ════════════════════════════════════════════════════════════════════════
-- Rows of digits
-- ════════════════════════════════════════════════════════════════════════

/-- What follows is not read as part of a number that has a place or an exponent. -/
def EndsNumber (rest : List Char) : Prop :=
  ∀ c tail, rest = c :: tail → c.isDigit = false ∧ c ≠ 'e' ∧ c ≠ 'E'

section Rows

variable {digits rest : List Char} {n : ℕ}

theorem takeWhile_digits (h : ∀ c ∈ digits, c.isDigit = true)
    (hrest : ∀ c tail, rest = c :: tail → c.isDigit = false) :
    (digits ++ rest).takeWhile Char.isDigit = digits ∧
      (digits ++ rest).dropWhile Char.isDigit = rest := by
  rw [List.takeWhile_append_of_pos h, List.dropWhile_append_of_pos h]
  cases rest with
  | nil => simp
  | cons c tail => simp [hrest c tail rfl]

theorem le_ofDigitChars : n ≤ Nat.ofDigitChars 10 digits n := by
  induction digits generalizing n with
  | nil => exact le_rfl
  | cons c digits ih =>
    rw [Nat.ofDigitChars_cons]
    exact le_trans (by omega) ih

theorem appendDigits_eq (h : Nat.ofDigitChars 10 digits n ≤ maxNatural) :
    appendDigits n digits = (Nat.ofDigitChars 10 digits n, 0) := by
  induction digits generalizing n with
  | nil => rfl
  | cons c digits ih =>
    rw [Nat.ofDigitChars_cons] at h ⊢
    have hfits : 10 * n + digitValue c ≤ maxNatural := le_ofDigitChars.trans h
    rw [appendDigits, if_pos hfits]
    exact ih h

theorem appendExponent_eq (h : Nat.ofDigitChars 10 digits n ≤ maxExponent) :
    appendExponent n digits = .inl (Nat.ofDigitChars 10 digits n) := by
  induction digits generalizing n with
  | nil => rfl
  | cons c digits ih =>
    rw [Nat.ofDigitChars_cons] at h ⊢
    have hfits : 10 * n + digitValue c ≤ maxExponent := le_ofDigitChars.trans h
    rw [appendExponent, if_pos hfits]
    exact ih h

end Rows

-- ════════════════════════════════════════════════════════════════════════
-- The parts of a number
-- ════════════════════════════════════════════════════════════════════════

/-- The digits before a point: a single zero, or digits of which the first one is not zero. -/
def IsWhole (s : List Char) : Prop :=
  IsDigits s ∧ (s = ['0'] ∨ ∀ tail, s ≠ '0' :: tail)

section Parts

variable {negative : Bool} {whole places rest : List Char} {n : ℕ} {start : ℤ}

/-- The digits before a point are read up to what follows them. -/
theorem scanMagnitude_whole (h : IsWhole whole) (hmax : Nat.ofDigitChars 10 whole 0 ≤ maxNatural)
    (hrest : ∀ c tail, rest = c :: tail → c.isDigit = false) :
    scanMagnitude negative (whole ++ rest) =
      scanAfterInteger negative (Nat.ofDigitChars 10 whole 0) 0 rest := by
  obtain ⟨hdigits, rfl | hfirst⟩ := h
  · cases rest with
    | nil => rfl
    | cons c tail => simp [scanMagnitude, hrest c tail rfl, Nat.ofDigitChars]
  · obtain ⟨htake, hdrop⟩ := takeWhile_digits hdigits.2 hrest
    have hread := appendDigits_eq hmax
    obtain ⟨c, tail, rfl, hc⟩ := hdigits.exists_cons
    rw [scanMagnitude.eq_def]
    split
    · rename_i hnil
      cases hnil
    · rename_i hzero
      obtain ⟨rfl, -⟩ := List.cons.inj hzero
      exact absurd rfl (hfirst tail)
    · rename_i hcons
      obtain ⟨rfl, -⟩ := List.cons.inj hcons
      simp only [hc, Bool.not_true, Bool.false_eq_true, ↓reduceIte, htake, hdrop, hread]

theorem scanFraction_places (h : IsDigits places)
    (hmax : Nat.ofDigitChars 10 places n ≤ maxNatural) (hrest : EndsNumber rest) :
    scanFraction negative n start (places ++ rest) =
      floatOf negative (Nat.ofDigitChars 10 places n) (start - places.length) rest := by
  obtain ⟨htake, hdrop⟩ := takeWhile_digits h.2 fun c tail hc => (hrest c tail hc).1
  have hne : places.isEmpty = false := by simpa using h.1
  simp only [scanFraction, htake, hdrop, hne, appendDigits_eq hmax, Bool.false_eq_true, ↓reduceIte,
    Nat.sub_zero]
  split
  · exact absurd rfl (hrest _ _ rfl).2.1
  · exact absurd rfl (hrest _ _ rfl).2.2
  · rfl

theorem scanFraction_exponent (h : IsDigits places)
    (hmax : Nat.ofDigitChars 10 places n ≤ maxNatural) :
    scanFraction negative n start (places ++ 'e' :: rest) =
      scanExponent negative (Nat.ofDigitChars 10 places n) (start - places.length) rest := by
  have hletter : ∀ c tail, 'e' :: rest = c :: tail → c.isDigit = false := by
    rintro c tail ⟨⟩
    decide
  obtain ⟨htake, hdrop⟩ := takeWhile_digits h.2 hletter
  have hne : places.isEmpty = false := by simpa using h.1
  simp only [scanFraction, htake, hdrop, hne, appendDigits_eq hmax, Bool.false_eq_true, ↓reduceIte,
    Nat.sub_zero]

theorem scanExponent_written {e : ℤ} (he : e.natAbs ≤ maxExponent) (hrest : EndsNumber rest) :
    scanExponent negative n start
        ((if e < 0 then ['-'] else ['+']) ++ (Nat.toDigits 10 e.natAbs ++ rest)) =
      floatOf negative n (start + e) rest := by
  obtain ⟨htake, hdrop⟩ := takeWhile_digits (isDigits_toDigits e.natAbs).2
    fun c tail hc => (hrest c tail hc).1
  have hvalue : Nat.ofDigitChars 10 (Nat.toDigits 10 e.natAbs) 0 = e.natAbs :=
    Nat.ofDigitChars_ten_toDigits
  have hbound : Nat.ofDigitChars 10 (Nat.toDigits 10 e.natAbs) 0 ≤ maxExponent := by
    rwa [hvalue]
  have hread := appendExponent_eq hbound
  rw [hvalue] at hread
  obtain ⟨c, tail, hcons, hc⟩ := (isDigits_toDigits e.natAbs).exists_cons
  rw [hcons, List.cons_append] at htake hdrop
  rw [hcons] at hread
  split
  · have hexponent : start - (e.natAbs : ℤ) = start + e := by omega
    simp only [scanExponent, hcons, List.cons_append, List.nil_append, hc, Bool.not_true,
      Bool.false_eq_true, ↓reduceIte, htake, hdrop, hread, hexponent]
  · have hexponent : start + (e.natAbs : ℤ) = start + e := by omega
    simp only [scanExponent, hcons, List.cons_append, List.nil_append, hc, Bool.not_true,
      Bool.false_eq_true, ↓reduceIte, htake, hdrop, hread, hexponent]

end Parts

-- ════════════════════════════════════════════════════════════════════════
-- Written doubles
-- ════════════════════════════════════════════════════════════════════════

/-- The text is digits around a point, and stands for this decimal digit by digit. -/
def Spells (s : List Char) (d : Decimal) : Prop :=
  ∃ whole places, s = whole ++ '.' :: places ∧ IsWhole whole ∧ IsDigits places ∧
    Nat.ofDigitChars 10 (whole ++ places) 0 = d.coefficient ∧ d.exponent = -places.length

theorem Spells.scanMagnitude {s rest : List Char} {d : Decimal} (h : Spells s d)
    (hmax : d.coefficient ≤ maxNatural) (hrest : EndsNumber rest) (negative : Bool) :
    scanMagnitude negative (s ++ rest) = floatOf negative d.coefficient d.exponent rest := by
  obtain ⟨whole, places, rfl, hwhole, hplaces, hvalue, hexponent⟩ := h
  rw [Nat.ofDigitChars_append] at hvalue
  rw [← hvalue] at hmax
  rw [List.append_assoc, scanMagnitude_whole hwhole (le_ofDigitChars.trans hmax)
    (by rintro c tail ⟨⟩; decide)]
  show scanFraction negative _ 0 (places ++ rest) = _
  rw [scanFraction_places hplaces hmax hrest, hvalue, hexponent, zero_sub]

theorem toDigits_ne_zero_cons {n : ℕ} (hn : n ≠ 0) (tail : List Char) :
    Nat.toDigits 10 n ≠ '0' :: tail := by
  induction n using Nat.strong_induction_on generalizing tail with
  | _ n ih =>
    by_cases hlt : n < 10
    · rw [Nat.toDigits_of_lt_base hlt]
      intro h
      have hdigit : Nat.digitChar n = '0' := (List.cons.inj h).1
      have hall : ∀ i < 10, Nat.digitChar i = '0' → i = 0 := by decide
      exact hn (hall n hlt hdigit)
    · rw [Nat.toDigits_of_base_le (by norm_num) (not_lt.1 hlt)]
      intro h
      obtain ⟨c, more, hcons, -⟩ := (isDigits_toDigits (n / 10)).exists_cons
      rw [hcons] at h
      obtain ⟨rfl, -⟩ := List.cons.inj h
      exact ih (n / 10) (by omega) (by omega) more hcons

theorem isWhole_append {n : ℕ} (hn : n ≠ 0) {zeros : List Char}
    (h : ∀ c ∈ zeros, c.isDigit = true) : IsWhole (Nat.toDigits 10 n ++ zeros) := by
  refine ⟨(isDigits_toDigits n).append h, .inr fun tail heq => ?_⟩
  obtain ⟨c, more, hcons, -⟩ := (isDigits_toDigits n).exists_cons
  rw [hcons, List.cons_append] at heq
  obtain ⟨rfl, -⟩ := List.cons.inj heq
  exact toDigits_ne_zero_cons hn more hcons

theorem isWhole_take {n k : ℕ} (hn : n ≠ 0) (hk : 0 < k) :
    IsWhole ((Nat.toDigits 10 n).take k) := by
  obtain ⟨c, more, hcons, -⟩ := (isDigits_toDigits n).exists_cons
  refine ⟨⟨?_, fun c hc => (isDigits_toDigits n).2 c (List.mem_of_mem_take hc)⟩, .inr ?_⟩
  · rw [← List.length_pos_iff, List.length_take, hcons, List.length_cons]
    omega
  · obtain ⟨i, rfl⟩ : ∃ i, k = i + 1 := ⟨k - 1, by omega⟩
    rw [hcons, List.take_succ_cons]
    rintro tail heq
    obtain ⟨rfl, -⟩ := List.cons.inj heq
    exact toDigits_ne_zero_cons hn more hcons

theorem isWhole_zero : IsWhole ['0'] :=
  ⟨isDigits_zero, .inl rfl⟩

/-- Digits around a point stand for what they are written for. A whole number has a place
  that is zero. -/
theorem spells_positionalChars {n : ℕ} (hn : n ≠ 0) (last : ℤ) :
    Spells (Layout.json.positionalChars (Nat.toDigits 10 n) last)
      (if 0 ≤ last then ⟨n * 10 ^ (last.toNat + 1), -1⟩ else ⟨n, last⟩) := by
  have hvalue : Nat.ofDigitChars 10 (Nat.toDigits 10 n) 0 = n := Nat.ofDigitChars_ten_toDigits
  rw [Layout.positionalChars]
  split
  · refine ⟨Nat.toDigits 10 n ++ List.replicate last.toNat '0', ['0'], rfl,
      isWhole_append hn fun _ => isDigit_of_mem_replicate, isDigits_zero, ?_, rfl⟩
    have hzeros : List.replicate last.toNat '0' ++ ['0'] = List.replicate (last.toNat + 1) '0' :=
      List.replicate_succ'.symm
    rw [List.append_assoc, hzeros, Nat.ofDigitChars_append, Nat.ofDigitChars_replicate_zero,
      hvalue, Nat.mul_comm]
  · rename_i hlast
    obtain ⟨k, rfl⟩ : ∃ k : ℕ, last = -(k : ℤ) := ⟨(-last).toNat, by omega⟩
    simp only [neg_neg, Int.toNat_natCast]
    split
    · rename_i hk
      refine ⟨_, _, rfl, isWhole_take hn (by omega), ⟨?_, ?_⟩, ?_, ?_⟩
      · rw [← List.length_pos_iff, List.length_drop]
        omega
      · exact fun c hc => (isDigits_toDigits n).2 c (List.mem_of_mem_drop hc)
      · rw [List.take_append_drop, hvalue]
      · rw [List.length_drop, Nat.sub_sub_self hk.le]
    · rename_i hk
      refine ⟨['0'], List.replicate (k - (Nat.toDigits 10 n).length) '0' ++ Nat.toDigits 10 n, rfl,
        isWhole_zero, ⟨?_, ?_⟩, ?_, ?_⟩
      · simp [(isDigits_toDigits n).1]
      · intro c hc
        rcases List.mem_append.1 hc with hc | hc
        · exact isDigit_of_mem_replicate hc
        · exact (isDigits_toDigits n).2 c hc
      · have hzero : Nat.ofDigitChars 10 ['0'] 0 = 0 := rfl
        rw [Nat.ofDigitChars_append, Nat.ofDigitChars_append, hzero,
          Nat.ofDigitChars_replicate_zero, Nat.mul_zero, hvalue]
      · rw [List.length_append, List.length_replicate, Nat.sub_add_cancel (not_lt.1 hk)]

theorem scanMagnitude_exponentialChars {n : ℕ} (hn : n ≠ 0) (hmax : n ≤ maxNatural) {leading : ℤ}
    (hleading : leading.natAbs ≤ maxExponent) {rest : List Char} (hrest : EndsNumber rest)
    (negative : Bool) :
    scanMagnitude negative (Layout.json.exponentialChars (Nat.toDigits 10 n) leading ++ rest) =
      floatOf negative n (leading + 1 - (Nat.toDigits 10 n).length) rest := by
  have hvalue : Nat.ofDigitChars 10 (Nat.toDigits 10 n) 0 = n := Nat.ofDigitChars_ten_toDigits
  have hwhole : IsWhole ((Nat.toDigits 10 n).take 1) := isWhole_take hn one_pos
  have hdigits := (isDigits_toDigits n).2
  obtain ⟨c, places, hcons, -⟩ := (isDigits_toDigits n).exists_cons
  obtain ⟨after, hafter⟩ : ∃ after, after = (if leading < 0 then ['-'] else ['+']) ++
    (Nat.toDigits 10 leading.natAbs ++ rest) := ⟨_, rfl⟩
  rw [hcons, List.take_succ_cons, List.take_zero] at hwhole
  rw [hcons] at hvalue hdigits
  have htext : Layout.json.exponentialChars (c :: places) leading ++ rest =
      [c] ++ ((if places = [] then [] else '.' :: places) ++ 'e' :: after) := by
    rw [Layout.exponentialChars, hafter]
    cases places <;> simp [Layout.json]
  rw [hcons, htext]
  rw [← List.singleton_append, Nat.ofDigitChars_append] at hvalue
  have hfits : Nat.ofDigitChars 10 [c] 0 ≤ maxNatural := le_ofDigitChars.trans (hvalue.trans_le hmax)
  rw [scanMagnitude_whole hwhole hfits (by rintro c tail hc; cases places <;> cases hc <;> decide)]
  cases places with
  | nil =>
    have hone : Nat.ofDigitChars 10 [c] 0 = n := hvalue
    rw [hone]
    show scanExponent negative n 0 after = _
    rw [hafter, scanExponent_written hleading hrest]
    congr 1
    simp
  | cons d more =>
    have hmore : IsDigits (d :: more) :=
      ⟨List.cons_ne_nil _ _, fun c' hc' => hdigits c' (List.mem_cons_of_mem c hc')⟩
    show scanFraction negative _ 0 (d :: more ++ 'e' :: after) = _
    rw [scanFraction_exponent hmore (hvalue.trans_le hmax), hafter, hvalue,
      scanExponent_written hleading hrest]
    congr 1
    simp only [List.length_cons]
    push_cast
    ring

/-- The decimal with a place where JSON shows one: in whole numbers without an exponent. -/
def withPlace (d : Decimal) : Decimal :=
  if 0 ≤ d.exponent ∧ d.exponent + (Nat.toDigits 10 d.coefficient).length ≤ 16 then
    ⟨d.coefficient * 10 ^ (d.exponent.toNat + 1), -1⟩
  else d

/-- A number that is written in full has seventeen digits at most. -/
theorem coefficient_withPlace_le {d : Decimal} (hmax : d.coefficient ≤ maxNatural) :
    (withPlace d).coefficient ≤ maxNatural := by
  rw [withPlace]
  split
  · have hlt : d.coefficient < 10 ^ (Nat.toDigits 10 d.coefficient).length :=
      (Nat.length_toDigits_le_iff (by norm_num) Nat.length_toDigits_pos).1 le_rfl
    calc d.coefficient * 10 ^ (d.exponent.toNat + 1)
        ≤ 10 ^ (Nat.toDigits 10 d.coefficient).length * 10 ^ (d.exponent.toNat + 1) :=
          Nat.mul_le_mul_right _ hlt.le
      _ = 10 ^ ((Nat.toDigits 10 d.coefficient).length + (d.exponent.toNat + 1)) :=
          (Nat.pow_add _ _ _).symm
      _ ≤ 10 ^ 17 := Nat.pow_le_pow_right (by norm_num) (by omega)
      _ ≤ maxNatural := by decide
  · exact hmax

/-- A decimal of moderate size is read as it is written. -/
theorem scanMagnitude_decimalChars {d : Decimal} (hd : d.coefficient ≠ 0)
    (hmax : d.coefficient ≤ maxNatural)
    (hleading : (d.exponent + (Nat.toDigits 10 d.coefficient).length - 1).natAbs ≤ maxExponent)
    {rest : List Char} (hrest : EndsNumber rest) (negative : Bool) :
    scanMagnitude negative (Layout.json.decimalChars d ++ rest) =
      floatOf negative (withPlace d).coefficient (withPlace d).exponent rest := by
  have hlength : 0 < (Nat.toDigits 10 d.coefficient).length := Nat.length_toDigits_pos
  have hfits := coefficient_withPlace_le hmax
  have hpositional : ∀ leading, Layout.json.isPositional leading = true ↔
      -5 ≤ leading ∧ leading ≤ 15 := by
    intro leading
    simp [Layout.isPositional, Layout.json]
  have hspells := spells_positionalChars hd d.exponent
  rw [withPlace] at hfits ⊢
  rw [Layout.decimalChars]
  by_cases hwhole : 0 ≤ d.exponent ∧ d.exponent + (Nat.toDigits 10 d.coefficient).length ≤ 16
  · rw [if_pos hwhole] at hfits ⊢
    rw [if_pos hwhole.1] at hspells
    rw [if_pos ((hpositional _).2 (by omega))]
    exact hspells.scanMagnitude hfits hrest negative
  · rw [if_neg hwhole]
    split
    · rename_i hplain
      rw [hpositional] at hplain
      rw [if_neg (by omega)] at hspells
      exact hspells.scanMagnitude hmax hrest negative
    · rw [scanMagnitude_exponentialChars hd hmax hleading hrest]
      congr 1
      omega

end Json

open DecimalText Json

/-- The decimal that is read from the JSON text of a finite double. -/
def Double.written (x : Double) : Decimal :=
  if x.isZero then ⟨0, -1⟩ else withPlace (x.shortest .even)

namespace Double

variable {x : Double}

theorem isZero_iff : x.isZero = true ↔ x.magnitude = 0 := by
  simp [isZero]

theorem written_zero (hx : x.magnitude = 0) : x.written = ⟨0, -1⟩ :=
  if_pos (isZero_iff.2 hx)

theorem written_shortest (hx : x.magnitude ≠ 0) : x.written = withPlace (x.shortest .even) :=
  if_neg (mt isZero_iff.1 hx)

theorem coefficient_written_le : x.written.coefficient ≤ maxNatural := by
  by_cases hx : x.magnitude = 0
  · rw [written_zero hx]
    exact Nat.zero_le _
  · have hmaxNatural : maxNatural = 18446744073709551615 := rfl
    have hlt := (coefficient_bounds .even hx).2
    rw [written_shortest hx]
    exact coefficient_withPlace_le (by omega)

/-- The JSON text of a double is read as the decimal that is written. -/
theorem scanMagnitude_magnitudeChars (hx : x.isFinite = true) {rest : List Char}
    (hrest : EndsNumber rest) (negative : Bool) :
    scanMagnitude negative (x.magnitudeChars .json ++ rest) =
      floatOf negative x.written.coefficient x.written.exponent rest := by
  by_cases hzero : x.magnitude = 0
  · have hspells : Spells (Layout.json.positionalChars ['0'] 0) ⟨0, -1⟩ :=
      ⟨['0'], ['0'], rfl, isWhole_zero, isDigits_zero, rfl, rfl⟩
    rw [magnitudeChars, if_pos (isZero_iff.2 hzero), written_zero hzero,
      hspells.scanMagnitude (by decide) hrest]
  · obtain ⟨hne, hlt⟩ := coefficient_bounds .even hzero
    obtain ⟨i, hlength, hlow, hhigh⟩ := exists_length_toDigits hne
    obtain ⟨hleast, hgreatest⟩ := first_bounds .even hzero hx hlow hhigh
    have hmaxNatural : maxNatural = 18446744073709551615 := rfl
    have hmaxExponent : maxExponent = 2147483647 := rfl
    rw [magnitudeChars, if_neg (mt isZero_iff.1 hzero), written_shortest hzero]
    exact scanMagnitude_decimalChars hne (by omega) (by omega) hrest negative

theorem exists_digit_positionalChars (layout : Layout) {digits : List Char}
    (h : IsDigits digits) (last : ℤ) :
    ∃ c tail, layout.positionalChars digits last = c :: tail ∧ c.isDigit = true := by
  obtain ⟨c, tail, rfl, hc⟩ := h.exists_cons
  rw [Layout.positionalChars]
  dsimp only
  split
  · exact ⟨c, _, rfl, hc⟩
  · split
    · obtain ⟨i, hi⟩ : ∃ i, (c :: tail).length - (-last).toNat = i + 1 :=
        Nat.exists_eq_succ_of_ne_zero (by omega)
      rw [hi, List.take_succ_cons]
      exact ⟨c, _, rfl, hc⟩
    · exact ⟨'0', _, rfl, rfl⟩

theorem exists_digit_magnitudeChars (layout : Layout) (x : Double) :
    ∃ c tail, x.magnitudeChars layout = c :: tail ∧ c.isDigit = true := by
  rw [magnitudeChars]
  split
  · exact exists_digit_positionalChars layout isDigits_zero 0
  · rw [Layout.decimalChars]
    split
    · exact exists_digit_positionalChars layout (isDigits_toDigits _) _
    · obtain ⟨c, tail, hcons, hc⟩ := (isDigits_toDigits
        (x.shortest layout.tie).coefficient).exists_cons
      rw [Layout.exponentialChars, hcons, List.take_succ_cons]
      exact ⟨c, _, rfl, hc⟩

/-- The double that is read from the JSON text of a finite double, unless it is out of range. -/
def reread? (x : Double) : Option Double :=
  (scaled? x.written.coefficient x.written.exponent).map fun y =>
    if x.isNegative then y.neg else y

/-- The JSON text of a finite double is read up to what follows it, unless it is out of range. -/
theorem scanNumber_toText (hx : x.isFinite = true) {rest : List Char} (hrest : EndsNumber rest) :
    scanNumber ((x.toText .json).toList ++ rest) =
      match x.reread? with
      | none => .error (faultAt .numberOutOfRange rest)
      | some y => .ok (.float y, rest) := by
  have hscan : scanNumber ((x.toText .json).toList ++ rest) =
      scanMagnitude x.isNegative (x.magnitudeChars .json ++ rest) := by
    rw [toList_toText hx]
    cases x.isNegative with
    | true => rfl
    | false =>
      obtain ⟨c, tail, hcons, hc⟩ := exists_digit_magnitudeChars .json x
      rw [if_neg Bool.false_ne_true, hcons]
      have hminus : c ≠ '-' := by
        rintro rfl
        cases hc
      rw [scanNumber.eq_def]
      split
      · rename_i heq
        exact absurd (List.cons.inj heq).1 hminus
      · rfl
  rw [hscan, scanMagnitude_magnitudeChars hx hrest, floatOf, reread?]
  cases scaled? x.written.coefficient x.written.exponent <;> rfl

end Double

end EntityQuery
