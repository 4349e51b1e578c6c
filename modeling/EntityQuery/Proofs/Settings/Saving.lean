import EntityQuery.Proofs.Number.Digits
import EntityQuery.Proofs.Settings.Reloading

/-!
# Saving settings in place

Settings are checked before the dictionary is touched. If the check fails, the dictionary stays
as it was; otherwise the entry of their kind changes and no other. For free shipping the check
is one of finite amounts that are not negative and codes of three characters, although it is
made on the JSON form.

## Main definitions

- `SettingsKind.saveInPlace` — save settings in the dictionary that is there
- `FreeShipping.IsValid` — the settings that can be saved

## Main statements

- `SettingsKind.run_saveInPlace` — saving in place has the result of `SettingsKind.save`
- `FreeShipping.saveInPlace_exact` — which settings are saved, and what changes
-/

namespace EntityQuery

open Json

-- ════════════════════════════════════════════════════════════════════════
-- Any kind of settings
-- ════════════════════════════════════════════════════════════════════════

namespace SettingsKind

variable {α : Type} {kind : SettingsKind α} {store : Dict String} {settings : α}

/-- Save settings in the dictionary that is there: check them, then set the entry. -/
def saveInPlace (kind : SettingsKind α) (settings : α) :
    ExceptT SettingsError (StateM (Dict String)) Unit := do
  ofExcept (kind.validate (kind.encode settings))
  modify fun store => store.insert kind.key (kind.text settings)

/-- Saving in place has the result of saving, and keeps the dictionary where that has none. -/
theorem run_saveInPlace :
    (kind.saveInPlace settings).run.run store =
      ((kind.save store settings).map fun _ => (),
        (kind.save store settings).toOption.getD store) := by
  rw [saveInPlace, save]
  cases kind.validate (kind.encode settings) <;> rfl

theorem eq_invalid_of_validate {constraint : Constraint} (h : kind.constraint = .ok constraint)
    {value : Json} {err : SettingsError} (herror : kind.validate value = .error err) :
    err = .invalid kind.key (constraint.violations value) := by
  rw [validate, h] at herror
  dsimp only at herror
  split at herror
  · cases herror
  · cases herror
    rfl

end SettingsKind

-- ════════════════════════════════════════════════════════════════════════
-- Free shipping
-- ════════════════════════════════════════════════════════════════════════

/-- A double is less than an integer if its value is. -/
theorem Json.Number.isBelow_float_iff {bound : ℤ} {x : Double} :
    isBelow bound (.float x) = true ↔ x.value < bound := by
  have hpos : (0 : ℚ) < x.denominator := by exact_mod_cast Double.denominator_pos
  have hvalue : x.value =
      ((if x.isNegative then -(x.numerator : ℤ) else x.numerator : ℤ) : ℚ) / x.denominator := by
    rw [Double.value, Double.abs_eq_ratio]
    split <;> simp [neg_div]
  rw [hvalue, div_lt_iff₀ hpos]
  simp only [isBelow, decide_eq_true_eq]
  exact_mod_cast Iff.rfl

namespace FreeShipping

variable {s : FreeShipping}

/-- An amount that is a number and not negative, in a currency with a code of three
  characters. -/
structure IsValid (s : FreeShipping) : Prop where
  isFinite : s.amount.isFinite = true
  nonneg : 0 ≤ s.amount.value
  length : s.currencyCode.length = 3

theorem validate_eq_ok_iff : kind.validate (toJson s) = .ok () ↔ s.IsValid := by
  rw [validate_toJson, ← Bool.not_eq_true, Json.Number.isBelow_float_iff, Int.cast_zero, not_lt]
  constructor
  · rintro ⟨hfinite, hnonneg, hlength⟩
    exact ⟨hfinite, hnonneg, hlength⟩
  · exact fun h => ⟨h.isFinite, h.nonneg, h.length⟩

theorem exists_violation_amount {path : List String} :
    (∃ v ∈ Constraint.violationsAt ["amount"] (.number 0)
        (if s.amount.isFinite then .number (.float s.amount) else .null), v.path = path) ↔
      path = ["amount"] ∧ ¬ (s.amount.isFinite = true ∧ 0 ≤ s.amount.value) := by
  by_cases hfinite : s.amount.isFinite = true
  · rw [if_pos hfinite, Constraint.violationsAt]
    by_cases hbelow : Json.Number.isBelow 0 (.float s.amount) = true
    · have hvalue : ¬ 0 ≤ s.amount.value :=
        not_le.2 (by simpa using Json.Number.isBelow_float_iff.1 hbelow)
      rw [if_pos hbelow]
      simp only [List.mem_singleton, exists_eq_left, hvalue, and_false, not_false_eq_true,
        and_true]
      exact eq_comm
    · have hvalue : 0 ≤ s.amount.value := by
        simpa using mt Json.Number.isBelow_float_iff.2 hbelow
      rw [if_neg hbelow]
      simp [hfinite, hvalue]
  · rw [if_neg hfinite, Constraint.violationsAt]
    · simp [hfinite, eq_comm]
    · rintro n ⟨⟩

theorem exists_violation_currencyCode {path : List String} :
    (∃ v ∈ Constraint.violationsAt ["currencyCode"] (.text 3) (.string s.currencyCode),
        v.path = path) ↔
      path = ["currencyCode"] ∧ s.currencyCode.length ≠ 3 := by
  rw [Constraint.violationsAt]
  split_ifs with hlong hshort
  · simp [hlong.ne', eq_comm]
  · simp [hshort.ne, eq_comm]
  · have hlength : s.currencyCode.length = 3 := by omega
    simp [hlength]

/-- The violations are those by an amount and by a code that are not valid. -/
theorem exists_violation_iff {path : List String} :
    (∃ v ∈ constraint.violations (toJson s), v.path = path) ↔
      (path = ["amount"] ∧ ¬ (s.amount.isFinite = true ∧ 0 ≤ s.amount.value)) ∨
        (path = ["currencyCode"] ∧ s.currencyCode.length ≠ 3) := by
  rw [toJson, violations_eq, ← exists_violation_amount, ← exists_violation_currencyCode]
  simp only [List.mem_append, or_and_right, exists_or]

/-- Settings are saved exactly if they are valid. If they are not, the dictionary stays as it was
  and the error names what is not valid; if they are, the entry of these settings is the only one
  to change, and the dictionary is the one that saving gives. -/
theorem saveInPlace_exact (store : Dict String) (s : FreeShipping) :
    ∃ outcome after, (kind.saveInPlace s).run.run store = (outcome, after) ∧
      (∀ store', kind.save store s = .ok store' ↔ outcome = .ok () ∧ after = store') ∧
      (outcome = .ok () ↔ s.IsValid) ∧
      (∀ err, outcome = .error err → after = store ∧ ∃ violations,
        err = .invalid kind.key violations ∧ ∀ path, (∃ v ∈ violations, v.path = path) ↔
          (path = ["amount"] ∧ ¬ (s.amount.isFinite = true ∧ 0 ≤ s.amount.value)) ∨
            (path = ["currencyCode"] ∧ s.currencyCode.length ≠ 3)) ∧
      (outcome = .ok () → after.find? kind.key = some (kind.text s)) ∧
      ∀ key, key ≠ kind.key → after.find? key = store.find? key := by
  refine ⟨_, _, SettingsKind.run_saveInPlace, ?_⟩
  rw [← validate_eq_ok_iff, SettingsKind.save]
  have hencode : kind.encode s = toJson s := rfl
  rw [hencode]
  cases hvalidate : kind.validate (toJson s) with
  | ok u =>
    refine ⟨by simp [Except.map, Except.toOption], by simp [Except.map], ?_, fun _ => ?_,
      fun key hkey => ?_⟩
    · rintro err ⟨⟩
    · show (store.insert kind.key (kind.text s)).find? kind.key = _
      rw [Dict.find?_insert, if_pos rfl]
    · show (store.insert kind.key (kind.text s)).find? key = _
      rw [Dict.find?_insert, if_neg hkey]
  | error err =>
    refine ⟨by simp [Except.map], by simp [Except.map], ?_, ?_, fun key _ => rfl⟩
    · rintro _ ⟨⟩
      exact ⟨rfl, _, SettingsKind.eq_invalid_of_validate constraint_kind hvalidate,
        fun path => exists_violation_iff⟩
    · rintro ⟨⟩

/-- The negative zero is an amount like zero, and a character counts as one. -/
example : (kind.save Dict.empty ⟨Double.zero true, "€¥£"⟩).toOption.isSome = true := by
  decide +kernel

end FreeShipping

end EntityQuery
