import Mathlib.Computability.RegularExpressions
import EntityQuery.Proofs.Translation.Storing

/-!
# Decimal numbers as a regular language

The check of decimal numbers takes a sign off, splits the rest at the first point and looks at
the characters of both parts. What it accepts is the language of one regular expression, and
decimals are stored in columns for numbers exactly if they belong to it.

## Main definitions

- `DecimalText.pattern` — the regular expression `-?[0-9]+(\.[0-9]+)?`

## Main statements

- `DecimalText.mem_matches_pattern` — the texts that match are the decimal numbers
- `PropertyBinding.decimal_iff` — which decimals are stored, and as what
-/

namespace EntityQuery

namespace DecimalText

open RegularExpression

-- ════════════════════════════════════════════════════════════════════════
-- The regular expression
-- ════════════════════════════════════════════════════════════════════════

/-- The ASCII digits. -/
def asciiDigits : List Char :=
  ['0', '1', '2', '3', '4', '5', '6', '7', '8', '9']

/-- One digit. -/
def digit : RegularExpression Char :=
  (asciiDigits.map char).sum

/-- One or more digits. -/
def digits : RegularExpression Char :=
  digit * digit.star

/-- An optional minus sign, digits, and optionally a point followed by further digits. -/
def pattern : RegularExpression Char :=
  (1 + char '-') * (digits * (1 + char '.' * digits))

variable {s : List Char}

theorem mem_matches_sum {cs : List Char} :
    s ∈ ((cs.map char).sum).matches' ↔ ∃ c ∈ cs, s = [c] := by
  induction cs with
  | nil => simp
  | cons c cs ih =>
    rw [List.map_cons, List.sum_cons, matches'_add, Language.mem_add, ih, List.exists_mem_cons_iff]
    rfl

theorem isDigit_iff_mem {c : Char} : c.isDigit = true ↔ c ∈ asciiDigits := by
  constructor
  · intro hc
    obtain ⟨hlow, hhigh⟩ := Char.isDigit_iff_toNat.1 hc
    have hall : ∀ n < 58, 48 ≤ n → Char.ofNat n ∈ asciiDigits := by decide
    have hmem := hall c.toNat (Nat.lt_succ_of_le hhigh) hlow
    rwa [Char.ofNat_toNat] at hmem
  · intro hmem
    have hall : asciiDigits.all Char.isDigit = true := by decide
    exact List.all_eq_true.1 hall c hmem

theorem mem_matches_digit : s ∈ digit.matches' ↔ ∃ c, c.isDigit = true ∧ s = [c] := by
  simp only [digit, mem_matches_sum, isDigit_iff_mem]

theorem mem_matches_star_digit : s ∈ digit.star.matches' ↔ ∀ c ∈ s, c.isDigit = true := by
  rw [matches'_star, Language.mem_kstar]
  constructor
  · rintro ⟨rows, rfl, hrows⟩ c hc
    obtain ⟨row, hrow, hmem⟩ := List.mem_flatten.1 hc
    obtain ⟨d, hd, rfl⟩ := mem_matches_digit.1 (hrows row hrow)
    rwa [List.mem_singleton.1 hmem]
  · intro hs
    refine ⟨s.map fun c => [c], ?_, ?_⟩
    · rw [← List.flatMap_def]
      simp
    · intro row hrow
      obtain ⟨c, hc, rfl⟩ := List.mem_map.1 hrow
      exact mem_matches_digit.2 ⟨c, hs c hc, rfl⟩

theorem mem_matches_digits : s ∈ digits.matches' ↔ IsDigits s := by
  rw [digits, matches'_mul, Language.mem_mul]
  constructor
  · rintro ⟨first, hfirst, more, hmore, rfl⟩
    obtain ⟨c, hc, rfl⟩ := mem_matches_digit.1 hfirst
    exact ⟨List.cons_ne_nil c more, List.forall_mem_cons.2 ⟨hc, mem_matches_star_digit.1 hmore⟩⟩
  · intro h
    obtain ⟨c, more, rfl, hc⟩ := h.exists_cons
    obtain ⟨-, hmore⟩ := List.forall_mem_cons.1 h.2
    exact ⟨[c], mem_matches_digit.2 ⟨c, hc, rfl⟩, more, mem_matches_star_digit.2 hmore, rfl⟩

theorem mem_matches_unsigned :
    s ∈ (digits * (1 + char '.' * digits)).matches' ↔ IsUnsigned s := by
  simp only [matches'_mul, matches'_add, matches'_epsilon, Language.mem_mul, Language.mem_add,
    Language.mem_one, mem_matches_digits]
  constructor
  · rintro ⟨whole, hwhole, rest, rfl | ⟨point, hpoint, places, hplaces, rfl⟩, rfl⟩
    · rw [List.append_nil]
      exact .inl hwhole
    · obtain rfl : point = ['.'] := hpoint
      exact .inr ⟨whole, places, rfl, hwhole, hplaces⟩
  · rintro (h | ⟨whole, places, rfl, hwhole, hplaces⟩)
    · exact ⟨s, h, [], .inl rfl, List.append_nil s⟩
    · exact ⟨whole, hwhole, _, .inr ⟨['.'], rfl, places, hplaces, rfl⟩, rfl⟩

/-- The texts that match the pattern are the decimal numbers. -/
theorem mem_matches_pattern {s : String} : s.toList ∈ pattern.matches' ↔ IsDecimal s := by
  rw [pattern, matches'_mul, Language.mem_mul, IsDecimal]
  simp only [matches'_add, matches'_epsilon, Language.mem_add, Language.mem_one,
    mem_matches_unsigned]
  constructor
  · rintro ⟨sign, rfl | hsign, rest, hrest, heq⟩
    · rw [← heq]
      exact .inl hrest
    · obtain rfl : sign = ['-'] := hsign
      exact .inr ⟨rest, heq.symm, hrest⟩
  · rintro (h | ⟨rest, heq, h⟩)
    · exact ⟨[], .inl rfl, s.toList, h, rfl⟩
    · exact ⟨['-'], .inr rfl, rest, h, heq.symm⟩

end DecimalText

-- ════════════════════════════════════════════════════════════════════════
-- Columns for numbers
-- ════════════════════════════════════════════════════════════════════════

open DecimalText

namespace PropertyBinding

variable {b : PropertyBinding} {s : String}

theorem param_decimal (hconverter : b.converter = .identity) (htype : b.column.type = .numeric)
    (hnumber : isNumber s = true) : b.param (.decimal s) = .ok ⟨.numeric s, .numeric⟩ := by
  refine param_eq_ok_iff.2 ⟨htype.symm, ?_⟩
  rw [hconverter, htype]
  exact .decimal hnumber

theorem param_decimal_refused
    (h : ¬ (b.converter = .identity ∧ b.column.type = .numeric ∧ isNumber s = true)) :
    b.param (.decimal s) =
      .error (.unconvertible b.property (.decimal s) b.column.type b.converter) := by
  rw [param]
  cases hstored : Value.stored? b.column.type b.converter (.decimal s) with
  | none => rfl
  | some stored =>
    apply absurd _ h
    generalize b.converter = converter, b.column.type = type at hstored
    cases Value.stored?_eq_some_iff.1 hstored with
    | decimal hnumber => exact ⟨rfl, rfl, hnumber⟩

/-- A text is taken for a decimal number exactly if it matches the pattern. Such a decimal is
  stored as it is in a column for numbers, and every other decimal is refused. -/
theorem decimal_iff (b : PropertyBinding) (s : String) :
    (isNumber s = true ↔ s.toList ∈ pattern.matches') ∧
    (∀ p, b.param (.decimal s) = .ok p ↔
      (b.converter = .identity ∧ b.column.type = .numeric ∧ s.toList ∈ pattern.matches') ∧
        p = ⟨.numeric s, .numeric⟩) ∧
    ∀ err, b.param (.decimal s) = .error err ↔
      ¬ (b.converter = .identity ∧ b.column.type = .numeric ∧ s.toList ∈ pattern.matches') ∧
        err = .unconvertible b.property (.decimal s) b.column.type b.converter := by
  have hnumber : isNumber s = true ↔ s.toList ∈ pattern.matches' :=
    isNumber_iff.trans mem_matches_pattern.symm
  rw [← hnumber]
  refine ⟨Iff.rfl, ?_⟩
  by_cases h : b.converter = .identity ∧ b.column.type = .numeric ∧ isNumber s = true
  · rw [param_decimal h.1 h.2.1 h.2.2]
    refine ⟨fun p => ?_, fun err => ?_⟩
    · rw [Except.ok.injEq, eq_comm, iff_and_self]
      exact fun _ => h
    · exact ⟨nofun, fun herr => absurd h herr.1⟩
  · rw [param_decimal_refused h]
    refine ⟨fun p => ?_, fun err => ?_⟩
    · exact ⟨nofun, fun hp => absurd hp.1 h⟩
    · rw [Except.error.injEq, eq_comm, iff_and_self]
      exact fun _ => h

/-- A sign stands once, a point stands between digits, and other digits than ASCII do not count. -/
example : ["-12.50", "--1", "1.", ".5", "1.2.3", "-", "٣"].filter isNumber = ["-12.50"] := by
  decide

end PropertyBinding

end EntityQuery
