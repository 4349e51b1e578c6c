import EntityQuery.Proofs.Mapping.Acceptance
import EntityQuery.Proofs.Number.Exact
import EntityQuery.Proofs.Number.Positional
import EntityQuery.Proofs.Translation.Parameters

/-!
# Stored values fit their columns

There are few ways in which a value becomes its stored form, each for certain types of
columns. Whichever is taken, the column can hold the result: integers are in range,
floating point numbers are finite, numbers in text form are decimal numbers.

## Main definitions

- `Value.StoredAs` — the ways in which values are stored
- `StoredValue.Fits` — what the columns of a type hold

## Main statements

- `Value.stored?_eq_some_iff` — values are stored in these ways and no others
- `PropertyBinding.param_fits` — a parameter fits its column
- `Resolver.params_fit` — so do the parameters of a translated statement
-/

namespace EntityQuery

open Sql DecimalText

-- ════════════════════════════════════════════════════════════════════════
-- The ways of storing values
-- ════════════════════════════════════════════════════════════════════════

/-- An integer is in the range of an integral type. -/
def ScalarType.InRange (type : ScalarType) (i : Int64) : Prop :=
  type.isIntegral = true ∧ -2 ^ (type.integerBits - 1) ≤ i.toInt ∧
    i.toInt < 2 ^ (type.integerBits - 1)

/-- The ways in which values are stored, by converter and type of column. -/
inductive Value.StoredAs : Converter → ScalarType → Value → StoredValue → Prop
  | bool {b} : StoredAs .identity .boolean (.bool b) (.bool b)
  | integer {type i} (hrange : type.InRange i) :
    StoredAs .identity type (.integer i) (.integer i)
  /-- An integer in a floating point column has no more bits than a significand. -/
  | integerDouble {type : ScalarType} {i : Int64} (hfloating : type.isFloating = true)
    (hexact : Double.roundToBits type.significantBits i.toInt.natAbs = i.toInt.natAbs) :
    StoredAs .identity type (.integer i) (.double (Double.ofInt i.toInt))
  | integerDigits {i : Int64} :
    StoredAs .identity .numeric (.integer i) (.numeric (Int.repr i.toInt))
  | float {type : ScalarType} {x} (hfloating : type.isFloating = true)
    (hfinite : x.isFinite = true) (hreal : type = .real → x.magnitude ≤ Double.singleMaxMagnitude) :
    StoredAs .identity type (.float x) (.double x)
  | floatDigits {x} (hfinite : x.isFinite = true) :
    StoredAs .identity .numeric (.float x) (.numeric (x.toText .plain))
  | decimal {s} (hnumber : isNumber s = true) :
    StoredAs .identity .numeric (.decimal s) (.numeric s)
  | text {s} : StoredAs .identity .text (.text s) (.text s)
  | timestamp {s} (htimestamp : (Timestamp.ofText? s).isSome = true) :
    StoredAs .identity .timestamp (.text s) (.text s)
  | uuid {u} : StoredAs .identity .uuid (.uuid u) (.uuid u)
  | discriminant {type e} (hrange : type.InRange e.discriminant) :
    StoredAs .enumAsInteger type (.enum e) (.integer e.discriminant)
  | variant {e} : StoredAs .enumAsText .text (.enum e) (.text e.variant)
  | uuidDigits {u} : StoredAs .uuidAsText .text (.uuid u) (.text u.toText)
  | flag {type b} (hintegral : type.isIntegral = true) :
    StoredAs .booleanAsInteger type (.bool b) (.integer (if b then 1 else 0))

section Ways

variable {type : ScalarType} {converter : Converter} {stored : StoredValue}

theorem StoredValue.ofInteger?_eq_some_iff {i : Int64} :
    ofInteger? type i = some stored ↔ type.InRange i ∧ stored = .integer i := by
  have hpow : ((Nat.pow 2 (type.integerBits - 1) : ℕ) : ℤ) = 2 ^ (type.integerBits - 1) := by
    rw [Nat.pow_eq, Nat.cast_pow]
    rfl
  rw [ofInteger?, ScalarType.InRange, hpow, Option.ite_none_right_eq_some, Option.some_inj,
    eq_comm (a := stored)]

theorem StoredValue.ofExactInteger?_eq_some_iff {i : Int64} :
    ofExactInteger? type i = some stored ↔
      (type.isFloating = true ∧
        Double.roundToBits type.significantBits i.toInt.natAbs = i.toInt.natAbs) ∧
      stored = .double (Double.ofInt i.toInt) := by
  rw [ofExactInteger?, Option.ite_none_right_eq_some, Option.some_inj, eq_comm (a := stored)]

theorem StoredValue.ofDouble?_eq_some_iff {x : Double} :
    ofDouble? type x = some stored ↔
      type.isFloating = true ∧ (type = .real → x.magnitude ≤ Double.singleMaxMagnitude) ∧
        stored = .double x := by
  cases type <;> simp [ofDouble?, ScalarType.isFloating, eq_comm]

namespace Value

variable {v : Value}

theorem storedAs_of_storedAsIs? (h : v.storedAsIs? type = some stored) :
    StoredAs .identity type v stored := by
  cases v with
  | bool b =>
    cases type with
    | boolean =>
      cases h
      exact .bool
    | _ => cases h
  | integer i =>
    cases type with
    | smallint | integer | bigint =>
      obtain ⟨hrange, rfl⟩ := StoredValue.ofInteger?_eq_some_iff.1 h
      exact .integer hrange
    | real | doublePrecision =>
      obtain ⟨⟨hfloating, hexact⟩, rfl⟩ := StoredValue.ofExactInteger?_eq_some_iff.1 h
      exact .integerDouble hfloating hexact
    | numeric =>
      cases h
      exact .integerDigits
    | _ => cases h
  | float x =>
    by_cases hfinite : x.isFinite = true
    · unfold storedAsIs? at h
      dsimp only at h
      rw [if_pos hfinite] at h
      cases type with
      | real | doublePrecision =>
        obtain ⟨hfloating, hreal, rfl⟩ := StoredValue.ofDouble?_eq_some_iff.1 h
        exact .float hfloating hfinite hreal
      | numeric =>
        cases h
        exact .floatDigits hfinite
      | _ => cases h
    · unfold storedAsIs? at h
      dsimp only at h
      rw [if_neg hfinite] at h
      cases h
  | decimal s =>
    cases type with
    | numeric =>
      obtain ⟨hnumber, rfl⟩ : isNumber s = true ∧ .numeric s = stored := by
        simpa [storedAsIs?] using h
      exact .decimal hnumber
    | _ => cases h
  | text s =>
    cases type with
    | text =>
      cases h
      exact .text
    | timestamp =>
      obtain ⟨htimestamp, rfl⟩ : (Timestamp.ofText? s).isSome = true ∧ .text s = stored := by
        simpa [storedAsIs?] using h
      exact .timestamp htimestamp
    | _ => cases h
  | uuid u =>
    cases type with
    | uuid =>
      cases h
      exact .uuid
    | _ => cases h
  | enum e => cases h

/-- Values are stored in these ways and no others. -/
theorem stored?_eq_some_iff :
    v.stored? type converter = some stored ↔ StoredAs converter type v stored := by
  constructor
  · intro h
    unfold stored? at h
    split at h
    · exact storedAs_of_storedAsIs? h
    · obtain ⟨hrange, rfl⟩ := StoredValue.ofInteger?_eq_some_iff.1 h
      exact .discriminant hrange
    · obtain ⟨rfl, rfl⟩ := by simpa using h
      exact .variant
    · obtain ⟨rfl, rfl⟩ := by simpa using h
      exact .uuidDigits
    · obtain ⟨hintegral, rfl⟩ := by simpa using h
      exact .flag hintegral
    · cases h
  · intro h
    cases h with
    | bool | text | uuid | integerDigits | variant | uuidDigits => rfl
    | integer hrange =>
      have hstored := StoredValue.ofInteger?_eq_some_iff.2 ⟨hrange, rfl⟩
      cases type with
      | smallint | integer | bigint => exact hstored
      | _ => exact absurd hrange.1 Bool.false_ne_true
    | integerDouble hfloating hexact =>
      have hstored := StoredValue.ofExactInteger?_eq_some_iff.2 ⟨⟨hfloating, hexact⟩, rfl⟩
      cases type with
      | real | doublePrecision => exact hstored
      | _ => exact absurd hfloating Bool.false_ne_true
    | float hfloating hfinite hreal =>
      have hstored := StoredValue.ofDouble?_eq_some_iff.2 ⟨hfloating, hreal, rfl⟩
      unfold stored? storedAsIs?
      dsimp only
      rw [if_pos hfinite]
      cases type with
      | real | doublePrecision => exact hstored
      | _ => exact absurd hfloating Bool.false_ne_true
    | floatDigits hfinite => exact if_pos hfinite
    | decimal hnumber => exact if_pos hnumber
    | timestamp htimestamp => exact if_pos htimestamp
    | discriminant hrange => exact StoredValue.ofInteger?_eq_some_iff.2 ⟨hrange, rfl⟩
    | flag hintegral => exact if_pos hintegral

end Value

/-- The parameter of a value is its stored form, declared with the type of the column. -/
theorem PropertyBinding.param_eq_ok_iff {b : PropertyBinding} {v : Value} {p : Param} :
    b.param v = .ok p ↔
      p.type = b.column.type ∧ Value.StoredAs b.converter b.column.type v p.value := by
  rw [← Value.stored?_eq_some_iff, param]
  cases v.stored? b.column.type b.converter with
  | none => simp
  | some stored =>
    constructor
    · rintro ⟨⟩
      exact ⟨rfl, rfl⟩
    · rintro ⟨htype, hstored⟩
      cases hstored
      rw [← htype]

end Ways

-- ════════════════════════════════════════════════════════════════════════
-- What columns hold
-- ════════════════════════════════════════════════════════════════════════

/-- The greatest finite number of the 32-bit format. -/
def Double.singleMax : ℚ :=
  (2 ^ 24 - 1) * 2 ^ 104

/-- What the columns of a type hold. -/
def StoredValue.Fits : ScalarType → StoredValue → Prop
  | .boolean, .bool _ => True
  | .smallint, .integer i => -2 ^ 15 ≤ i.toInt ∧ i.toInt < 2 ^ 15
  | .integer, .integer i => -2 ^ 31 ≤ i.toInt ∧ i.toInt < 2 ^ 31
  | .bigint, .integer i => -2 ^ 63 ≤ i.toInt ∧ i.toInt < 2 ^ 63
  | .real, .double x => x.isFinite = true ∧ x.abs ≤ Double.singleMax
  | .doublePrecision, .double x => x.isFinite = true
  | .numeric, .numeric s => IsDecimal s
  | .text, .text _ => True
  | .uuid, .uuid _ => True
  | .timestamp, .text s => (Timestamp.ofText? s).isSome = true
  | _, _ => False

section Fitting

variable {type : ScalarType}

theorem Double.abs_le_singleMax {x : Double} (h : x.magnitude ≤ singleMaxMagnitude) :
    x.abs ≤ singleMax := by
  have hmax : valueAt singleMaxMagnitude = singleMax := by
    norm_num [valueAt, binade, singleMaxMagnitude, singleMax]
  rw [abs_eq_valueAt, ← hmax]
  exact valueAt_strictMono.monotone h

theorem StoredValue.fits_integer {i : Int64} (h : type.InRange i) :
    Fits type (.integer i) := by
  cases type with
  | smallint | integer | bigint => exact h.2
  | _ => exact absurd h.1 Bool.false_ne_true

theorem ScalarType.inRange_bit (h : type.isIntegral = true) (b : Bool) :
    type.InRange (if b then 1 else 0) := by
  refine ⟨h, ?_⟩
  cases type with
  | smallint | integer | bigint => cases b <;> decide
  | _ => exact absurd h Bool.false_ne_true

theorem natAbs_toInt_le (i : Int64) : i.toInt.natAbs ≤ 2 ^ 63 := by
  have hle := i.le_toInt
  have hlt := i.toInt_lt
  omega

theorem log2_natAbs_toInt (i : Int64) : i.toInt.natAbs.log2 < 1023 := by
  have hle := natAbs_toInt_le i
  by_cases hzero : i.toInt.natAbs = 0
  · rw [hzero]
    decide
  · have hlog : i.toInt.natAbs.log2 < 64 := (Nat.log2_lt hzero).2 (by omega)
    omega

/-- An integer that a floating point column accepts is a double. -/
theorem Double.ofInt_of_accepted {i : Int64}
    (hexact : roundToBits type.significantBits i.toInt.natAbs = i.toInt.natAbs) :
    (ofInt i.toInt).isFinite = true ∧ (ofInt i.toInt).abs = i.toInt.natAbs ∧
      (ofInt i.toInt).value = i.toInt := by
  have hbits : type.significantBits ≤ 53 := by cases type <;> decide
  exact ofInt_exact (log2_natAbs_toInt i) (roundToBits_mono hbits hexact)

theorem StoredValue.fits_exact {i : Int64} (hfloating : type.isFloating = true)
    (hexact : Double.roundToBits type.significantBits i.toInt.natAbs = i.toInt.natAbs) :
    Fits type (.double (Double.ofInt i.toInt)) := by
  obtain ⟨hfinite, habs, -⟩ := Double.ofInt_of_accepted hexact
  cases type with
  | doublePrecision => exact hfinite
  | real =>
    refine ⟨hfinite, ?_⟩
    have hcast : ((i.toInt.natAbs : ℕ) : ℚ) ≤ 2 ^ 63 := by exact_mod_cast natAbs_toInt_le i
    rw [habs]
    refine hcast.trans ?_
    norm_num [Double.singleMax]
  | _ => exact absurd hfloating Bool.false_ne_true

/-- However a value is stored, the column can hold the result. -/
theorem Value.StoredAs.fits {converter : Converter} {v : Value} {stored : StoredValue}
    (h : StoredAs converter type v stored) : stored.Fits type := by
  cases h with
  | bool | text | uuid | variant | uuidDigits => trivial
  | integer hrange => exact StoredValue.fits_integer hrange
  | integerDouble hfloating hexact => exact StoredValue.fits_exact hfloating hexact
  | integerDigits => exact isDecimal_repr _
  | float hfloating hfinite hreal =>
    cases type with
    | doublePrecision => exact hfinite
    | real => exact ⟨hfinite, Double.abs_le_singleMax (hreal rfl)⟩
    | _ => exact absurd hfloating Bool.false_ne_true
  | floatDigits hfinite => exact Double.isDecimal_toText hfinite
  | decimal hnumber => exact isNumber_iff.1 hnumber
  | timestamp htimestamp => exact htimestamp
  | discriminant hrange => exact StoredValue.fits_integer hrange
  | flag hintegral => exact StoredValue.fits_integer (ScalarType.inRange_bit hintegral _)

end Fitting

/-- A parameter is declared with the type of its column and holds what such a column
  holds. A pattern is always a text. -/
theorem PropertyBinding.param_fits (b : PropertyBinding) (v : Value) :
    (∀ p, b.param v = .ok p → p.type = b.column.type ∧ p.value.Fits b.column.type) ∧
      ∀ x, EntityDescriptor.testCondition b (.compare .like v) = .ok x →
        ∃ s, x = .compare .like (EntityDescriptor.columnOf b) (.param ⟨.text s, .text⟩) := by
  refine ⟨?_, ?_⟩
  · intro p hp
    obtain ⟨htype, hstored⟩ := param_eq_ok_iff.1 hp
    exact ⟨htype, hstored.fits⟩
  · intro x hx
    obtain ⟨hpatterns, ⟨value, type⟩, hp, rfl⟩ := EntityDescriptor.testCondition_compare.1 hx
    obtain ⟨rfl, hstored⟩ := param_eq_ok_iff.1 hp
    have hfits := hstored.fits
    have htext : b.column.type = .text := by
      have hlike := hpatterns rfl
      revert hlike
      cases b.column.type <;> decide
    rw [htext] at hfits ⊢
    cases value with
    | text s => exact ⟨s, rfl⟩
    | _ => exact hfits.elim

namespace Storefront

/-- The total of an invoice, a number in text form. -/
def totalBinding : PropertyBinding :=
  ⟨"total", ⟨some "billing", "invoices"⟩, ⟨"total", .numeric, .nonNullable⟩, .identity, none⟩

/-- The note of a customer. -/
def noteBinding : PropertyBinding :=
  ⟨"note", ⟨none, "customer_notes"⟩, ⟨"note", .text, .nullable⟩, .identity, some "customer_key"⟩

/-- A great total is written without an exponent. -/
theorem param_fits_total :
    totalBinding.param (.float ⟨0x44B52D02C7E14AF6⟩) =
        .ok ⟨.numeric "100000000000000000000000", .numeric⟩ ∧
      IsDecimal "100000000000000000000000" ∧
      ∃ x, EntityDescriptor.testCondition noteBinding (.compare .like (.text "50%")) = .ok x ∧
        ∃ s, x = .compare .like (EntityDescriptor.columnOf noteBinding)
          (.param ⟨.text s, .text⟩) := by
  have htotal : totalBinding.param (.float ⟨0x44B52D02C7E14AF6⟩) =
      .ok ⟨.numeric "100000000000000000000000", .numeric⟩ := by decide +kernel
  have hfits := ((totalBinding.param_fits _).1 _ htotal).2
  exact ⟨htotal, hfits, _, rfl, (noteBinding.param_fits (.text "50%")).2 _ rfl⟩

end Storefront

/-- The parameters of a translated statement are the compared values, converted. -/
theorem Resolver.converts_params {r : Resolver} {d : Dialect} {entity : String} {c : Criteria}
    {s : Statement}
    (h : r.statement d entity c = .ok s ∨ r.countStatement d entity c = .ok s) :
    ∃ e : EntityDescriptor, List.Forall₂ e.Converts c.compared s.params := by
  rcases h with h | h
  · obtain ⟨tree, htree, rfl⟩ := statement_eq_ok.1 h
    obtain ⟨e, -, hselect⟩ := select_eq_ok.1 htree
    rw [Select.params_eq]
    exact ⟨e, EntityDescriptor.select_params hselect⟩
  · obtain ⟨tree, htree, rfl⟩ := countStatement_eq_ok.1 h
    obtain ⟨e, -, hselect⟩ := countSelect_eq_ok.1 htree
    rw [Select.params_eq]
    exact ⟨e, EntityDescriptor.countSelect_params hselect⟩

/-- Every parameter of a translated statement fits the type it is declared with. -/
theorem Resolver.params_fit {r : Resolver} {d : Dialect} {entity : String} {c : Criteria}
    {s : Statement}
    (h : r.statement d entity c = .ok s ∨ r.countStatement d entity c = .ok s) :
    ∀ p ∈ s.params, p.value.Fits p.type := by
  obtain ⟨e, hconverts⟩ := converts_params h
  intro p hp
  obtain ⟨compared, -, b, -, hparam⟩ := (exists_mem_of_forall₂ hconverts).2 p hp
  obtain ⟨htype, hstored⟩ := PropertyBinding.param_eq_ok_iff.1 hparam
  rw [htype]
  exact hstored.fits

end EntityQuery
