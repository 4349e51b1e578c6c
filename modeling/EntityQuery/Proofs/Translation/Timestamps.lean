import EntityQuery.Proofs.Timestamp.Forms
import EntityQuery.Proofs.Translation.Storing

/-!
# Texts in timestamp columns

A text can be stored in a timestamp column if it denotes an instant of the Gregorian calendar.
Two forms are documented: an offset after an ASCII sign, or no offset and every field of full
width. The readers take more than that, and what more they take is described here.

## Main definitions

- `Timestamp.IsGregorianDay` — the rules of the calendar
- `Timestamp.IsDocumented`, `Timestamp.IsStray` — pieces in and outside the documented forms

## Main statements

- `PropertyBinding.timestamp_isReal` — stored texts denote one instant of the calendar
- `PropertyBinding.timestamp_iff` — the texts that are stored and those that are refused
-/

namespace EntityQuery

open Sql

namespace Timestamp

-- ════════════════════════════════════════════════════════════════════════
-- The calendar
-- ════════════════════════════════════════════════════════════════════════

/-- A day of the proleptic Gregorian calendar. -/
structure IsGregorianDay (year : ℤ) (month day : ℕ) : Prop where
  month_pos : 1 ≤ month
  month_le : month ≤ 12
  day_pos : 1 ≤ day
  day_le : day ≤ 31
  /-- April, June, September and November have 30 days. -/
  short : month ∈ [4, 6, 9, 11] → day ≤ 30
  february : month = 2 → day ≤ 29
  /-- Of the years that end a century, only every fourth is a leap year. -/
  leap : month = 2 → day = 29 → 4 ∣ year ∧ (100 ∣ year → 400 ∣ year)

theorem isLeapYear_iff {year : ℤ} :
    isLeapYear year = true ↔ 4 ∣ year ∧ (100 ∣ year → 400 ∣ year) := by
  simp only [isLeapYear, Bool.and_eq_true, Bool.or_eq_true, beq_iff_eq, bne_iff_ne]
  omega

section Calendar

variable {year : ℤ} {month day : ℕ}

theorem isGregorianDay_february :
    IsGregorianDay year 2 day ↔ 1 ≤ day ∧ day ≤ if isLeapYear year then 29 else 28 := by
  by_cases hyear : isLeapYear year = true
  · rw [if_pos hyear]
    constructor
    · exact fun h => ⟨h.day_pos, h.february rfl⟩
    · rintro ⟨hday, hle⟩
      exact ⟨by omega, by omega, hday, by omega, by simp, fun _ => hle,
        fun _ _ => isLeapYear_iff.1 hyear⟩
  · rw [if_neg hyear]
    constructor
    · intro h
      have hday : day ≠ 29 := fun hday => hyear (isLeapYear_iff.2 (h.leap rfl hday))
      have hle := h.february rfl
      exact ⟨h.day_pos, by omega⟩
    · rintro ⟨hday, hle⟩
      exact ⟨by omega, by omega, hday, by omega, by simp, by omega, by omega⟩

theorem isGregorianDay_short (h : month ∈ [4, 6, 9, 11]) :
    IsGregorianDay year month day ↔ 1 ≤ day ∧ day ≤ 30 := by
  constructor
  · exact fun hreal => ⟨hreal.day_pos, hreal.short h⟩
  · rintro ⟨hday, hle⟩
    have hmonth : 1 ≤ month ∧ month ≤ 12 ∧ month ≠ 2 := by
      simp only [List.mem_cons, List.not_mem_nil, or_false] at h
      omega
    exact ⟨hmonth.1, hmonth.2.1, hday, by omega, fun _ => hle, by omega, by omega⟩

theorem isGregorianDay_long (hfebruary : month ≠ 2) (hshort : month ∉ [4, 6, 9, 11]) :
    IsGregorianDay year month day ↔ (1 ≤ month ∧ month ≤ 12) ∧ 1 ≤ day ∧ day ≤ 31 := by
  constructor
  · exact fun h => ⟨⟨h.month_pos, h.month_le⟩, h.day_pos, h.day_le⟩
  · rintro ⟨⟨hmonth, hmonth'⟩, hday, hle⟩
    exact ⟨hmonth, hmonth', hday, hle, fun h => absurd h hshort, by omega, by omega⟩

/-- The months have the days of the calendar. -/
theorem isGregorianDay_iff :
    IsGregorianDay year month day ↔ 1 ≤ day ∧ day ≤ daysInMonth year month := by
  unfold daysInMonth
  by_cases hfebruary : month = 2
  · rw [if_pos hfebruary, hfebruary]
    exact isGregorianDay_february
  · rw [if_neg hfebruary]
    by_cases hshort : month ∈ [4, 6, 9, 11]
    · rw [if_pos hshort]
      exact isGregorianDay_short hshort
    · have hlong : month ∈ [1, 3, 5, 7, 8, 10, 12] ↔ 1 ≤ month ∧ month ≤ 12 := by
        simp only [List.mem_cons, List.not_mem_nil, or_false] at hshort ⊢
        omega
      rw [if_neg hshort, isGregorianDay_long hfebruary hshort, ← hlong]
      split
      · rename_i hmem
        exact and_iff_right hmem
      · rename_i hmem
        simp only [hmem, false_and, false_iff]
        omega

end Calendar

/-- The fields of a real timestamp, by the rules of calendar and clock. -/
theorem isReal_iff {t : Timestamp} :
    t.IsReal ↔ IsGregorianDay t.year t.month t.day ∧ t.hour ≤ 23 ∧ t.minute ≤ 59 ∧ t.second ≤ 60 ∧
      ∀ o ∈ t.offset, o.1 ≤ 23 ∧ o.2 ≤ 59 := by
  rw [isGregorianDay_iff]
  constructor
  · exact fun h => ⟨⟨h.day_pos, h.day_le⟩, h.hour_le, h.minute_le, h.second_le, h.offset_le⟩
  · rintro ⟨⟨hpos, hle⟩, hhour, hminute, hsecond, hoffset⟩
    exact ⟨hpos, hle, hhour, hminute, hsecond, hoffset⟩

-- ════════════════════════════════════════════════════════════════════════
-- The documented forms
-- ════════════════════════════════════════════════════════════════════════

/-- Pieces with an offset after an ASCII sign, or without an offset and of full width. -/
def IsDocumented (p : Pieces) (t : Timestamp) : Prop :=
  InOffsetForm ['+', '-'] p t ∨ InLocalForm (.fixed ['T']) p t

/-- Pieces in no documented form that are read all the same: the sign of the offset is the minus
  sign of typography, or without an offset some field is short, has a sign or has white space
  before it. -/
def IsStray (p : Pieces) (t : Timestamp) : Prop :=
  (InOffsetForm ['\u2212'] p t ∧ '\u2212' ∈ p.offset) ∨
    (InLocalForm (.lenient ['T']) p t ∧ ¬ p.IsFull ∧ -262143 ≤ t.year ∧ t.year ≤ 262142)

/-- The text is made of pieces of this kind, which say a real timestamp. -/
def IsWritten (kind : Pieces → Timestamp → Prop) (s : List Char) : Prop :=
  ∃ p t, p.chars = s ∧ kind p t ∧ t.IsReal

section Documented

variable {s : List Char} {p : Pieces} {t : Timestamp} {o : ℕ × ℕ}

theorem IsOffset.widen {signs wider : List Char} (h : IsOffset signs s o)
    (hsubset : signs ⊆ wider) : IsOffset wider s o := by
  cases h with
  | universal hc => exact .universal hc
  | shifted hsign hhours hminutes => exact .shifted (hsubset hsign) hhours hminutes

theorem InOffsetForm.widen {signs wider : List Char} (h : InOffsetForm signs p t)
    (hsubset : signs ⊆ wider) : InOffsetForm wider p t := by
  obtain ⟨hspells, o, ho, hoffset⟩ := h
  exact ⟨hspells, o, ho, hoffset.widen hsubset⟩

theorem isOffset_cases (h : IsOffset ['+', '-', '\u2212'] s o) :
    IsOffset ['+', '-'] s o ∨ (IsOffset ['\u2212'] s o ∧ '\u2212' ∈ s) := by
  cases h with
  | universal hc => exact .inl (.universal hc)
  | shifted hsign hhours hminutes =>
    simp only [List.mem_cons, List.not_mem_nil, or_false] at hsign
    rcases hsign with rfl | rfl | rfl
    · exact .inl (.shifted (by decide) hhours hminutes)
    · exact .inl (.shifted (by decide) hhours hminutes)
    · exact .inr ⟨.shifted (by decide) hhours hminutes, List.mem_cons_self⟩

theorem IsRow.not_mem {width : ℕ} {row : List Char} {c : Char} (h : IsRow width row)
    (hc : c.isDigit = false) : c ∉ row := by
  intro hmem
  rw [h.2 c hmem] at hc
  cases hc

theorem IsOffset.not_mem (h : IsOffset ['+', '-'] s o) : '\u2212' ∉ s := by
  cases h with
  | universal hc => rcases List.mem_pair.1 hc with rfl | rfl <;> decide
  | shifted hsign hhours hminutes =>
    have hh := hhours.not_mem (c := '\u2212') (by decide)
    have hm := hminutes.not_mem (c := '\u2212') (by decide)
    rcases List.mem_pair.1 hsign with rfl | rfl <;> simp [hh, hm]

theorem isLocalYear_iff {year : ℤ} :
    isLocalYear year = true ↔ -262143 ≤ year ∧ year ≤ 262142 := by
  simp [isLocalYear]

theorem says_iff :
    (Says p t ∧ (t.offset = none → isLocalYear t.year = true)) ↔
      IsDocumented p t ∨ IsStray p t := by
  constructor
  · rintro ⟨⟨hspells, o, ho, hoffset⟩ | hlocal, hyear⟩
    · rcases isOffset_cases hoffset with hascii | ⟨hminus, hmem⟩
      · exact .inl (.inl ⟨hspells, o, ho, hascii⟩)
      · exact .inr (.inl ⟨⟨hspells, o, ho, hminus⟩, hmem⟩)
    · by_cases hfull : p.IsFull
      · exact .inl (.inr ⟨Form.spells_fixed_iff.2 ⟨hlocal.1, hfull⟩, hlocal.2⟩)
      · exact .inr (.inr ⟨hlocal, hfull, isLocalYear_iff.1 (hyear hlocal.2.2)⟩)
  · have hoffset {signs : List Char} (h : InOffsetForm signs p t)
        (hsubset : signs ⊆ ['+', '-', '\u2212']) :
        Says p t ∧ (t.offset = none → isLocalYear t.year = true) := by
      refine ⟨.inl (h.widen hsubset), fun hnone => ?_⟩
      obtain ⟨-, o, ho, -⟩ := h
      rw [hnone] at ho
      cases ho
    rintro ((h | ⟨hfixed, hlocal⟩) | (⟨h, -⟩ | ⟨h, -, hyear⟩))
    · exact hoffset h (by decide)
    · refine ⟨.inr ⟨(Form.spells_fixed_iff.1 hfixed).1, hlocal⟩, fun _ => ?_⟩
      rw [isLocalYear_iff, hfixed.year.2]
      have hlt := hfixed.year.1.rowValue_lt
      omega
    · exact hoffset h (by decide)
    · exact ⟨.inr h, fun _ => isLocalYear_iff.2 hyear⟩

theorem isSome_ofText?_iff {s : String} :
    (ofText? s).isSome = true ↔ IsWritten IsDocumented s.toList ∨ IsWritten IsStray s.toList := by
  simp only [Option.isSome_iff_exists, ofText?_eq_some_iff]
  constructor
  · rintro ⟨t, ⟨p, hchars, hsaid⟩, hreal, hyear⟩
    rcases says_iff.1 ⟨hsaid, hyear⟩ with h | h
    · exact .inl ⟨p, t, hchars, h, hreal⟩
    · exact .inr ⟨p, t, hchars, h, hreal⟩
  · rintro (⟨p, t, hchars, h, hreal⟩ | ⟨p, t, hchars, h, hreal⟩)
    · obtain ⟨hsaid, hyear⟩ := says_iff.2 (.inl h)
      exact ⟨t, ⟨p, hchars, hsaid⟩, hreal, hyear⟩
    · obtain ⟨hsaid, hyear⟩ := says_iff.2 (.inr h)
      exact ⟨t, ⟨p, hchars, hsaid⟩, hreal, hyear⟩

/-- No text is in a documented form and in a stray one. -/
theorem IsDocumented.not_isStray {p' : Pieces} {t' : Timestamp} (h : IsDocumented p t)
    (heq : p.chars = p'.chars) : ¬ IsStray p' t' := by
  intro h'
  obtain ⟨rfl, rfl⟩ := (says_iff.2 (.inl h)).1.unique (says_iff.2 (.inr h')).1 heq
  rcases h with ⟨-, o, ho, hoffset⟩ | ⟨hfixed, hnil, -⟩
  · rcases h' with ⟨-, hmem⟩ | ⟨⟨-, -, hnone⟩, -⟩
    · exact hoffset.not_mem hmem
    · rw [ho] at hnone
      cases hnone
  · rcases h' with ⟨-, hmem⟩ | ⟨-, hshort, -⟩
    · rw [hnil] at hmem
      cases hmem
    · exact hshort (Form.spells_fixed_iff.1 hfixed).2

end Documented

end Timestamp

-- ════════════════════════════════════════════════════════════════════════
-- Timestamp columns
-- ════════════════════════════════════════════════════════════════════════

open Timestamp

namespace PropertyBinding

variable {b : PropertyBinding} {s : String}

theorem param_timestamp (hconverter : b.converter = .identity)
    (htype : b.column.type = .timestamp) :
    b.param (.text s) =
      if (ofText? s).isSome then .ok ⟨.text s, .timestamp⟩
      else .error (.unconvertible b.property (.text s) .timestamp .identity) := by
  rw [param, hconverter, htype]
  cases h : (ofText? s).isSome <;> simp [Value.stored?, Value.storedAsIs?, h]

/-- A text in a timestamp column denotes one timestamp, a time of a day of the calendar. -/
theorem timestamp_isReal {p : Param} (hconverter : b.converter = .identity)
    (htype : b.column.type = .timestamp) (h : b.param (.text s) = .ok p) :
    ∃ t, Denotes s.toList t ∧ (∀ t', Denotes s.toList t' → t' = t) ∧
      IsGregorianDay t.year t.month t.day ∧ t.hour ≤ 23 ∧ t.minute ≤ 59 ∧ t.second ≤ 60 ∧
      ∀ o ∈ t.offset, o.1 ≤ 23 ∧ o.2 ≤ 59 := by
  rw [param_timestamp hconverter htype] at h
  split at h
  · rename_i hsome
    obtain ⟨t, ht⟩ := Option.isSome_iff_exists.1 hsome
    obtain ⟨hdenotes, hreal, -⟩ := ofText?_eq_some_iff.1 ht
    exact ⟨t, hdenotes, fun t' ht' => ht'.unique hdenotes, isReal_iff.1 hreal⟩
  · cases h

end PropertyBinding

namespace Storefront

/-- The date of an invoice. -/
def dateBinding : PropertyBinding :=
  ⟨"invoiceDate", ⟨some "billing", "invoices"⟩, ⟨"invoice_date", .timestamp, .nonNullable⟩,
    .identity, none⟩

/-- A leap second on a leap day. -/
theorem timestamp_isReal_leapDay :
    dateBinding.param (.text "2000-02-29T23:59:60.5+23:59") =
        .ok ⟨.text "2000-02-29T23:59:60.5+23:59", .timestamp⟩ ∧
      ∃ t, Denotes "2000-02-29T23:59:60.5+23:59".toList t ∧
        IsGregorianDay t.year t.month t.day := by
  have hparam : dateBinding.param (.text "2000-02-29T23:59:60.5+23:59") =
      .ok ⟨.text "2000-02-29T23:59:60.5+23:59", .timestamp⟩ := by decide +kernel
  obtain ⟨t, hdenotes, -, hday, -⟩ := PropertyBinding.timestamp_isReal rfl rfl hparam
  exact ⟨hparam, t, hdenotes, hday⟩

end Storefront

/-- A text is stored in a timestamp column as it is if it is written in a documented form or in
  a stray one, and refused if it is not. It is in one of them at most. -/
theorem PropertyBinding.timestamp_iff {b : PropertyBinding}
    (hconverter : b.converter = .identity) (htype : b.column.type = .timestamp) (s : String) :
    (∀ p, b.param (.text s) = .ok p ↔ p = ⟨.text s, .timestamp⟩ ∧
      (IsWritten IsDocumented s.toList ∨ IsWritten IsStray s.toList)) ∧
    (∀ err, b.param (.text s) = .error err ↔
      err = .unconvertible b.property (.text s) .timestamp .identity ∧
        ¬ IsWritten IsDocumented s.toList ∧ ¬ IsWritten IsStray s.toList) ∧
    ¬ (IsWritten IsDocumented s.toList ∧ IsWritten IsStray s.toList) := by
  rw [param_timestamp hconverter htype, ← not_or, ← isSome_ofText?_iff]
  refine ⟨fun p => ?_, fun err => ?_, ?_⟩
  · cases (ofText? s).isSome <;> simp [eq_comm]
  · cases (ofText? s).isSome <;> simp [eq_comm]
  · rintro ⟨⟨p, t, hchars, h, -⟩, p', t', hchars', h', -⟩
    exact h.not_isStray (hchars.trans hchars'.symm) h'

namespace Storefront

/-- The thirtieth of February is in no form. -/
theorem timestamp_iff_february :
    dateBinding.param (.text "2024-02-30T00:00:00Z") =
        .error (.unconvertible "invoiceDate" (.text "2024-02-30T00:00:00Z") .timestamp .identity) ∧
      ¬ IsWritten IsDocumented "2024-02-30T00:00:00Z".toList ∧
      ¬ IsWritten IsStray "2024-02-30T00:00:00Z".toList := by
  have herror : dateBinding.param (.text "2024-02-30T00:00:00Z") = .error
      (.unconvertible "invoiceDate" (.text "2024-02-30T00:00:00Z") .timestamp .identity) := by
    decide +kernel
  obtain ⟨-, hrefused, -⟩ :=
    PropertyBinding.timestamp_iff (b := dateBinding) rfl rfl "2024-02-30T00:00:00Z"
  exact ⟨herror, ((hrefused _).1 herror).2⟩

/-- A month of one digit is stored, and its text is in no documented form. -/
theorem not_timestamp_documented :
    ¬ ∀ (b : PropertyBinding) (s : String) (p : Param), b.converter = .identity →
      b.column.type = .timestamp → b.param (.text s) = .ok p →
      ∃ q t, q.chars = s.toList ∧ IsDocumented q t := by
  intro hclaim
  have hparam : dateBinding.param (.text "2024-1-31T10:00:00") =
      .ok ⟨.text "2024-1-31T10:00:00", .timestamp⟩ := by decide +kernel
  obtain ⟨q, t, hchars, hdocumented⟩ := hclaim dateBinding _ _ rfl rfl hparam
  obtain ⟨hyear, hmonth⟩ : IsRow 4 q.year ∧ IsRow 2 q.month := by
    rcases hdocumented with ⟨hspells, -⟩ | ⟨hspells, -⟩
    · exact ⟨hspells.year.1, hspells.month.1⟩
    · exact ⟨hspells.year.1, hspells.month.1⟩
  obtain ⟨a, b, c, d, hyear'⟩ := List.length_eq_four.1 hyear.1
  obtain ⟨m, n, hmonth'⟩ := List.length_eq_two.1 hmonth.1
  -- The second character of the month would be the hyphen after it.
  have hdigit : n.isDigit = true := hmonth.2 n (by simp [hmonth'])
  have hhyphen : n = '-' := by
    simp only [Pieces.chars, hyear', hmonth'] at hchars
    simp_all
  rw [hhyphen] at hdigit
  exact absurd hdigit (by decide)

end Storefront

end EntityQuery
