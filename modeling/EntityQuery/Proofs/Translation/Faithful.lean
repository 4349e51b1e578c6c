import Mathlib
import EntityQuery.Proofs.Translation.Storing

/-!
# No two values are stored alike

Two values of one kind that are compared with the same property have the same
parameter only if they are the same value, or variants of an enumeration of which the
converter keeps the same part. No number is rounded, and no text is cut.

## Main definitions

- `Value.SameFor` — values are the same as far as a converter stores them

## Main statements

- `Uuid.toText_injective` — identifiers are known by their texts
- `PropertyBinding.param_injective` — values with the same parameter are the same
-/

namespace EntityQuery

-- ════════════════════════════════════════════════════════════════════════
-- Texts of identifiers
-- ════════════════════════════════════════════════════════════════════════

namespace Uuid

variable {u v : Uuid} {start count : Nat}

theorem ne_hyphen_of_mem_digits {c : Char} (h : c ∈ u.digits start count) : c ≠ '-' := by
  have hdigit : ∀ n < 16, Nat.digitChar n ≠ '-' := by decide
  induction count with
  | zero => cases h
  | succ n ih =>
    rcases List.mem_cons.1 h with rfl | h
    · exact hdigit _ (Nat.mod_lt _ (by decide))
    · exact ih h

/-- Without its hyphens the text is the row of all digits. -/
theorem filter_chars : u.chars.filter (· ≠ '-') = u.digits 0 32 := by
  have hdigits (start count : Nat) :
      (u.digits start count).filter (· ≠ '-') = u.digits start count := by
    rw [List.filter_eq_self]
    intro c hc
    exact decide_eq_true (ne_hyphen_of_mem_digits hc)
  have hhyphen (rest : List Char) : ('-' :: rest).filter (· ≠ '-') = rest.filter (· ≠ '-') :=
    List.filter_cons_of_neg (by decide)
  rw [chars]
  simp only [List.filter_append, hhyphen, hdigits]
  rfl

/-- The last digits are those of the value modulo a power of 16. -/
theorem mod_eq_of_digits (h : u.digits 0 count = v.digits 0 count) :
    u.bits.toNat % 16 ^ count = v.bits.toNat % 16 ^ count := by
  have hdigit : ∀ m < 16, ∀ n < 16, Nat.digitChar m = Nat.digitChar n → m = n := by decide
  induction count with
  | zero => rw [Nat.pow_zero, Nat.mod_one, Nat.mod_one]
  | succ n ih =>
    obtain ⟨hfirst, hrest⟩ := List.cons.inj h
    rw [digit, digit, Nat.zero_add] at hfirst
    have hn := hdigit _ (Nat.mod_lt _ (by decide)) _ (Nat.mod_lt _ (by decide)) hfirst
    simp only [Nat.pow_eq] at hn
    rw [Nat.mod_pow_succ, Nat.mod_pow_succ, ih hrest, hn]

theorem toText_injective : Function.Injective toText := by
  intro u v h
  have hdigits : u.digits 0 32 = v.digits 0 32 := by
    rw [← filter_chars, ← filter_chars, String.ofList_inj.1 h]
  have hmod := mod_eq_of_digits hdigits
  have hpow : 16 ^ 32 = 2 ^ 128 := by norm_num
  rw [hpow, Nat.mod_eq_of_lt u.bits.isLt, Nat.mod_eq_of_lt v.bits.isLt] at hmod
  exact congrArg Uuid.mk (BitVec.eq_of_toNat_eq hmod)

end Uuid

-- ════════════════════════════════════════════════════════════════════════
-- Values stored alike
-- ════════════════════════════════════════════════════════════════════════

namespace Value

/-- Two values are the same, as far as a converter stores them. -/
def SameFor : Converter → Value → Value → Prop
  | .enumAsInteger, .enum e, .enum e' => e.discriminant = e'.discriminant
  | .enumAsText, .enum e, .enum e' => e.variant = e'.variant
  | _, v, w => v = w

theorem SameFor.of_eq {converter : Converter} {v w : Value} (h : v = w) :
    v.SameFor converter w := by
  subst h
  cases converter <;> cases v <;> rfl

section StoredAlike

variable {converter : Converter} {type : ScalarType} {first second : StoredValue}

theorem StoredAs.bool_inj {b c : Bool} (hb : StoredAs converter type (.bool b) first)
    (hc : StoredAs converter type (.bool c) second) (h : first = second) : b = c := by
  cases hb with
  | bool =>
    cases hc
    exact StoredValue.bool.inj h
  | flag =>
    cases hc
    have hnumbers := StoredValue.integer.inj h
    revert hnumbers
    cases b <;> cases c <;> decide

/-- Integers are stored alike only if they are equal, also as doubles and as digits. -/
theorem StoredAs.integer_inj {i j : Int64} (hi : StoredAs converter type (.integer i) first)
    (hj : StoredAs converter type (.integer j) second) (h : first = second) : i = j := by
  cases hi with
  | integer =>
    cases hj with
    | integer => exact StoredValue.integer.inj h
    | _ => cases h
  | integerDouble _ hi =>
    cases hj with
    | integerDouble _ hj =>
      have hvalues : (i.toInt : ℚ) = j.toInt := by
        rw [← (Double.ofInt_of_accepted hi).2.2, ← (Double.ofInt_of_accepted hj).2.2,
          StoredValue.double.inj h]
      exact Int64.toInt_inj.1 (Int.cast_injective hvalues)
    | _ => cases h
  | integerDigits =>
    cases hj with
    | integerDigits => exact Int64.toInt_inj.1 (Int.repr_inj.1 (StoredValue.numeric.inj h))
    | _ => cases h

theorem StoredAs.float_inj {x y : Double} (hx : StoredAs converter type (.float x) first)
    (hy : StoredAs converter type (.float y) second) (h : first = second) : x = y := by
  cases hx with
  | float =>
    cases hy with
    | float => exact StoredValue.double.inj h
    | _ => cases h
  | floatDigits hx =>
    cases hy with
    | floatDigits hy => exact Double.toText_injective hx hy (StoredValue.numeric.inj h)
    | _ => cases h

theorem StoredAs.decimal_inj {s t : String} (hs : StoredAs converter type (.decimal s) first)
    (ht : StoredAs converter type (.decimal t) second) (h : first = second) : s = t := by
  cases hs
  cases ht
  exact StoredValue.numeric.inj h

theorem StoredAs.text_inj {s t : String} (hs : StoredAs converter type (.text s) first)
    (ht : StoredAs converter type (.text t) second) (h : first = second) : s = t := by
  cases hs <;> cases ht <;> exact StoredValue.text.inj h

theorem StoredAs.uuid_inj {u w : Uuid} (hu : StoredAs converter type (.uuid u) first)
    (hw : StoredAs converter type (.uuid w) second) (h : first = second) : u = w := by
  cases hu with
  | uuid =>
    cases hw
    exact StoredValue.uuid.inj h
  | uuidDigits =>
    cases hw
    exact Uuid.toText_injective (StoredValue.text.inj h)

theorem StoredAs.enum_sameFor {e e' : EnumValue} (he : StoredAs converter type (.enum e) first)
    (he' : StoredAs converter type (.enum e') second) (h : first = second) :
    (enum e).SameFor converter (enum e') := by
  cases he with
  | discriminant =>
    cases he'
    exact StoredValue.integer.inj h
  | variant =>
    cases he'
    exact StoredValue.text.inj h

/-- Values of one kind are stored alike only if they are the same for the converter. -/
theorem StoredAs.sameFor {v w : Value} (hv : StoredAs converter type v first)
    (hw : StoredAs converter type w second) (hkind : v.kindName = w.kindName)
    (h : first = second) : v.SameFor converter w := by
  -- Integers, floats and decimals may share a text, so the kinds have to agree first.
  cases v <;> cases w <;> simp [kindName] at hkind
  case bool.bool => exact .of_eq (congrArg _ (hv.bool_inj hw h))
  case integer.integer => exact .of_eq (congrArg _ (hv.integer_inj hw h))
  case float.float => exact .of_eq (congrArg _ (hv.float_inj hw h))
  case decimal.decimal => exact .of_eq (congrArg _ (hv.decimal_inj hw h))
  case text.text => exact .of_eq (congrArg _ (hv.text_inj hw h))
  case uuid.uuid => exact .of_eq (congrArg _ (hv.uuid_inj hw h))
  case enum.enum => exact hv.enum_sameFor hw h

end StoredAlike

end Value

/-- Values of one kind that have the same parameter for a property are the same, as far
  as the converter stores them. -/
theorem PropertyBinding.param_injective (b : PropertyBinding) {v w : Value} {p : Param}
    (hkind : v.kindName = w.kindName) (hv : b.param v = .ok p) (hw : b.param w = .ok p) :
    v.SameFor b.converter w := by
  obtain ⟨-, hfirst⟩ := param_eq_ok_iff.1 hv
  obtain ⟨-, hsecond⟩ := param_eq_ok_iff.1 hw
  exact hfirst.sameFor hsecond hkind rfl

/-- Where doubles are two apart, an odd number is not stored as an even neighbour. -/
example :
    (Value.integer 9007199254740993).stored? .doublePrecision .identity = none ∧
      ((Value.integer 9007199254740994).stored? .doublePrecision .identity).isSome = true := by
  decide

namespace Storefront

/-- The purpose of an address, an enumeration kept as numbers. -/
def addressTypeBinding : PropertyBinding :=
  ⟨"addressType", ⟨none, "customer_addresses"⟩, ⟨"address_type", .smallint, .nonNullable⟩,
    .enumAsInteger, none⟩

/-- Two variants with one parameter have one number. -/
theorem param_injective_addressType :
    (Value.enum ⟨"AddressType", "Billing", 2⟩).kindName =
        (Value.enum ⟨"Purpose", "Invoice", 2⟩).kindName ∧
      addressTypeBinding.param (.enum ⟨"AddressType", "Billing", 2⟩) =
        .ok ⟨.integer 2, .smallint⟩ ∧
      addressTypeBinding.param (.enum ⟨"Purpose", "Invoice", 2⟩) = .ok ⟨.integer 2, .smallint⟩ ∧
      (Value.enum ⟨"AddressType", "Billing", 2⟩).SameFor .enumAsInteger
        (.enum ⟨"Purpose", "Invoice", 2⟩) :=
  ⟨rfl, rfl, rfl, addressTypeBinding.param_injective rfl rfl rfl⟩

end Storefront

end EntityQuery
