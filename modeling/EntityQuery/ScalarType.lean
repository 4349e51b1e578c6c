/-!
# Storage types

The types a stored column may have, which are also the types that parameters are
declared with.

## Main definitions

- `ScalarType` — the storage types
- `ScalarType.name` — the name used in configurations and messages
- `ScalarType.isIntegral`, `ScalarType.isFloating`, `ScalarType.supportsPatterns`
-/

namespace EntityQuery

/-- The storage types. -/
inductive ScalarType
  | boolean
  | smallint
  | integer
  | bigint
  | real
  | doublePrecision
  | numeric
  | text
  | uuid
  | timestamp
deriving DecidableEq, Inhabited

namespace ScalarType

def all : List ScalarType :=
  [.boolean, .smallint, .integer, .bigint, .real, .doublePrecision, .numeric, .text, .uuid,
   .timestamp]

def name : ScalarType → String
  | .boolean => "boolean"
  | .smallint => "smallint"
  | .integer => "integer"
  | .bigint => "bigint"
  | .real => "real"
  | .doublePrecision => "double precision"
  | .numeric => "numeric"
  | .text => "text"
  | .uuid => "uuid"
  | .timestamp => "timestamp"

/-- Does the type hold integers of a fixed size? -/
def isIntegral : ScalarType → Bool
  | .smallint | .integer | .bigint => true
  | _ => false

/-- Does the type hold binary floating point numbers? -/
def isFloating : ScalarType → Bool
  | .real | .doublePrecision => true
  | _ => false

/-- Can columns of the type be matched against a pattern? -/
def supportsPatterns : ScalarType → Bool
  | .text => true
  | _ => false

end ScalarType

end EntityQuery
