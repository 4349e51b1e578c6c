/-!
# Comparing and ordering

## Main definitions

- `CompareOp` — how a stored value is compared with a single value
- `Direction` — the direction of an ordering
-/

namespace EntityQuery

/-- How a stored value is compared with a single value. -/
inductive CompareOp
  | equals
  | notEquals
  | greaterThan
  | lessThan
  | greaterOrEqual
  | lessOrEqual
  | like
deriving DecidableEq

/-- The direction of an ordering. -/
inductive Direction
  | ascending
  | descending
deriving DecidableEq

end EntityQuery
