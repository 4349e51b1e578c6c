import EntityQuery.Criteria.Predicate
import EntityQuery.Dialect.Basic

/-!
# Criteria

Criteria say which entities to fetch and in what order: a predicate, sort keys
and a window. They are values: every operation gives new criteria.

## Main definitions

- `SortKey` — a property to sort by
- `Window.make` — a window of rows, if its numbers are in range
- `Criteria` — predicate, sort keys and window
- `Criteria.and`, `Criteria.or` — combine two criteria
- `Criteria.referencedProperties` — the properties mentioned, in order
-/

namespace EntityQuery

/-- A property to sort by. -/
structure SortKey where
  property : String
  direction : Direction
deriving DecidableEq

/-- A window of rows: the offset must not be negative and the limit must be
  positive. The offset is looked at first. -/
def Window.make (offset limit : Int64) : Except PredicateError Window :=
  if offset.toInt < 0 then .error (.negativeOffset offset)
  else if limit.toInt ≤ 0 then .error (.nonPositiveLimit limit)
  else .ok ⟨offset.toInt.toNat, limit.toInt.toNat⟩

/-- Which entities to fetch and in what order. -/
structure Criteria where
  /-- The predicate; every entity is matched if it is absent. -/
  predicate : Option Predicate := none
  /-- The sort keys, the most significant first. -/
  sortKeys : List SortKey := []
  /-- The window; every entity is returned if it is absent. -/
  window : Option Window := none
deriving DecidableEq, Inhabited

namespace Criteria

/-- Every entity, in no particular order. -/
def matchAll : Criteria :=
  {}

/-- Two criteria with a new predicate: the sort keys follow each other, and the
  second window, if there is one, replaces the first. -/
def merge (a b : Criteria) (predicate : Option Predicate) : Criteria :=
  { predicate, sortKeys := a.sortKeys ++ b.sortKeys, window := b.window.or a.window }

/-- Both predicates have to hold. A side without one is ignored. -/
def and (a b : Criteria) : Criteria :=
  a.merge b <| match a.predicate, b.predicate with
    | none, p => p
    | p, none => p
    | some p, some q => some (.and p q)

/-- One of the predicates has to hold. A side without one matches everything. -/
def or (a b : Criteria) : Criteria :=
  a.merge b <| match a.predicate, b.predicate with
    | some p, some q => some (.or p q)
    | _, _ => none

/-- Add a comparison that has to hold as well. -/
def filter (a : Criteria) (property : String) (operator : Operator) (operand : Operand) :
    Except PredicateError Criteria :=
  match Comparison.make property operator operand with
  | .error e => .error e
  | .ok c => .ok (a.and { predicate := some (.comparison c) })

/-- Add a least significant sort key. -/
def orderBy (a : Criteria) (property : String) (direction : Direction) : Criteria :=
  { a with sortKeys := a.sortKeys ++ [⟨property, direction⟩] }

/-- Set the window, replacing an earlier one. -/
def page (a : Criteria) (offset limit : Int64) : Except PredicateError Criteria :=
  match Window.make offset limit with
  | .error e => .error e
  | .ok w => .ok { a with window := some w }

/-- The comparisons of the predicate, depth first. -/
def comparisons (a : Criteria) : List Comparison :=
  match a.predicate with
  | none => []
  | some p => p.comparisons

/-- The properties mentioned: those of the comparisons, depth first, then those
  of the sort keys. -/
def referencedProperties (a : Criteria) : List String :=
  a.comparisons.map Comparison.property ++ a.sortKeys.map SortKey.property

/-- Equality of criteria as trees, floating point values being compared as numbers. -/
def same (a b : Criteria) : Bool :=
  (match a.predicate, b.predicate with
    | none, none => true
    | some p, some q => p.same q
    | _, _ => false)
  && a.sortKeys == b.sortKeys && a.window == b.window

end Criteria

end EntityQuery
