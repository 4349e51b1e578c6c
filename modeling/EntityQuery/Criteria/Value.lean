import EntityQuery.Number.Layout
import EntityQuery.Text.Quoted
import EntityQuery.Uuid

/-!
# Values

The values that properties are compared with, as the domain holds them, before
any conversion to a stored form.

## Main definitions

- `Value` — a value of the domain
- `Value.kindName`, `Value.toText` — its kind and its text in messages
- `Value.same` — equality of values, numbers being compared as numbers
-/

namespace EntityQuery

/-- A variant of an enumeration. -/
structure EnumValue where
  typeName : String
  variant : String
  discriminant : Int64
deriving DecidableEq

/-- A value of the domain. -/
inductive Value
  | bool (value : Bool)
  | integer (value : Int64)
  | float (value : Double)
  /-- A decimal number as text. -/
  | decimal (text : String)
  | text (value : String)
  | uuid (value : Uuid)
  | enum (value : EnumValue)
deriving DecidableEq

namespace Value

/-- The kind of a value, in messages. -/
def kindName : Value → String
  | .bool _ => "bool"
  | .integer _ => "integer"
  | .float _ => "float"
  | .decimal _ => "decimal"
  | .text _ => "text"
  | .uuid _ => "uuid"
  | .enum _ => "enum"

/-- The text of a value, in messages. -/
def toText : Value → String
  | .bool true => "true"
  | .bool false => "false"
  | .integer i => Int.repr i.toInt
  | .float x => x.toText .plain
  | .decimal s => s
  | .text s => Text.quoted s
  | .uuid u => u.toText
  | .enum e => e.typeName ++ "::" ++ e.variant

/-- Equality of values, where floating point values are compared as numbers. -/
def same : Value → Value → Bool
  | .float x, .float y => x.numericEq y
  | .float _, _ => false
  | _, .float _ => false
  | v, w => v == w

end Value

end EntityQuery
