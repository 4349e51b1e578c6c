import EntityQuery.ScalarType
import EntityQuery.Uuid
import EntityQuery.Number.Layout

/-!
# Parameters

A value never stands in the text of a statement. It is bound as a parameter: a
stored value together with the type it is declared with.

## Main definitions

- `StoredValue` — a value in the form a database driver receives
- `Param` — a stored value and its declared type
- `StoredValue.toText` — the text of a stored value, for logs and messages
-/

namespace EntityQuery

/-- A value in the form a database driver receives. -/
inductive StoredValue
  | bool (value : Bool)
  | integer (value : Int64)
  | double (value : Double)
  /-- A decimal number as text. -/
  | numeric (text : String)
  | text (value : String)
  | uuid (value : Uuid)
deriving DecidableEq

/-- A parameter of a statement. -/
structure Param where
  value : StoredValue
  type : ScalarType
deriving DecidableEq

/-- The text of a stored value. -/
def StoredValue.toText : StoredValue → String
  | .bool true => "true"
  | .bool false => "false"
  | .integer i => Int.repr i.toInt
  | .double x => x.toText .plain
  | .numeric s => s
  | .text s => s
  | .uuid u => u.toText

end EntityQuery
