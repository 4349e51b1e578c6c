import EntityQuery.Criteria.Predicate
import EntityQuery.Mapping.Descriptor
import EntityQuery.Number.DecimalText
import EntityQuery.Timestamp

/-!
# Stored forms of values

A value compared with a property becomes the form that the column of the
property stores. A value that the column cannot hold unchanged is refused:
integers and floating point numbers are checked against the range and the
precision of the column, texts against the form of a number or a timestamp.

## Main definitions

- `ScalarType.integerBits` — the width of an integral type
- `Value.stored?` — the stored form of a value for a column type and a converter
- `PropertyBinding.param` — the parameter for a value compared with a property
-/

namespace EntityQuery

/-- The number of bits, sign included, of the values of an integral type. -/
def ScalarType.integerBits : ScalarType → Nat
  | .smallint => 16
  | .integer => 32
  | .bigint => 64
  | _ => 0

/-- The number of significant bits of the values of a floating point type. -/
def ScalarType.significantBits : ScalarType → Nat
  | .real => 24
  | .doublePrecision => 53
  | _ => 0

namespace StoredValue

/-- An integer, if an integral type holds it. -/
def ofInteger? (type : ScalarType) (i : Int64) : Option StoredValue :=
  let bound : Int := Nat.pow 2 (type.integerBits - 1)
  if type.isIntegral ∧ -bound ≤ i.toInt ∧ i.toInt < bound then some (.integer i) else none

/-- An integer as a floating point number, if a floating point type holds it exactly. -/
def ofExactInteger? (type : ScalarType) (i : Int64) : Option StoredValue :=
  let n := i.toInt.natAbs
  if type.isFloating ∧ Double.roundToBits type.significantBits n = n then
    some (.double (Double.ofInt i.toInt))
  else none

/-- A finite floating point number, if a floating point type can hold it. -/
def ofDouble? (type : ScalarType) (x : Double) : Option StoredValue :=
  match type with
  | .real => if x.magnitude ≤ Double.singleMaxMagnitude then some (.double x) else none
  | .doublePrecision => some (.double x)
  | _ => none

end StoredValue

namespace Value

/-- The stored form of a value that is stored as it is. -/
def storedAsIs? (type : ScalarType) : Value → Option StoredValue
  | .bool b => match type with
    | .boolean => some (.bool b)
    | _ => none
  | .integer i => match type with
    | .smallint | .integer | .bigint => StoredValue.ofInteger? type i
    | .real | .doublePrecision => StoredValue.ofExactInteger? type i
    | .numeric => some (.numeric (Int.repr i.toInt))
    | _ => none
  | .float x =>
    if x.isFinite then match type with
      | .real | .doublePrecision => StoredValue.ofDouble? type x
      | .numeric => some (.numeric (x.toText .plain))
      | _ => none
    else none
  | .decimal s => match type with
    | .numeric => if DecimalText.isNumber s then some (.numeric s) else none
    | _ => none
  | .text s => match type with
    | .text => some (.text s)
    | .timestamp => if (Timestamp.ofText? s).isSome then some (.text s) else none
    | _ => none
  | .uuid u => match type with
    | .uuid => some (.uuid u)
    | _ => none
  | .enum _ => none

/-- The stored form of a value for a column type and a converter, if the column
  can hold it. -/
def stored? (type : ScalarType) (converter : Converter) (value : Value) : Option StoredValue :=
  match converter, value with
  | .identity, v => v.storedAsIs? type
  | .enumAsInteger, .enum e => StoredValue.ofInteger? type e.discriminant
  | .enumAsText, .enum e => if type = .text then some (.text e.variant) else none
  | .uuidAsText, .uuid u => if type = .text then some (.text u.toText) else none
  | .booleanAsInteger, .bool b =>
    if type.isIntegral then some (.integer (if b then 1 else 0)) else none
  | _, _ => none

end Value

/-- The parameter for a value compared with a property. It is declared with the
  type of the column. -/
def PropertyBinding.param (b : PropertyBinding) (value : Value) : Except PredicateError Param :=
  match value.stored? b.column.type b.converter with
  | some stored => .ok ⟨stored, b.column.type⟩
  | none => .error (.unconvertible b.property value b.column.type b.converter)

end EntityQuery
