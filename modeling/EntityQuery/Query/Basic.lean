import EntityQuery.Dialect.Reserved
import EntityQuery.Translation.Select

/-!
# Queries

A query factory is bound to one resolver and one dialect and hands out queries
over an entity. A query is refined step by step and finally gives statements;
no database is ever touched.

## Main definitions

- `QueryFactory` — a resolver and a dialect
- `Query` — criteria over an entity, bound to a resolver and a dialect
- `Query.statement`, `Query.countStatement` — the statements of a query
-/

namespace EntityQuery

/-- A resolver and a dialect that queries are bound to. -/
structure QueryFactory where
  /-- Where entities are looked up. -/
  resolver : Resolver
  dialect : Dialect

/-- Criteria over an entity, bound to a resolver and a dialect. -/
structure Query where
  /-- Where entities are looked up. -/
  resolver : Resolver
  dialect : Dialect
  entity : String
  /-- Which entities to fetch and in what order. -/
  criteria : Criteria

namespace QueryFactory

/-- The query that matches every entity of a name. -/
def create (f : QueryFactory) (entity : String) : Query :=
  ⟨f.resolver, f.dialect, entity, .matchAll⟩

/-- A name, quoted for a statement written by hand. -/
def quote (f : QueryFactory) (name : String) : String :=
  f.dialect.quote name

/-- A name for a statement written by hand, quoted only if it is reserved. -/
def escape (f : QueryFactory) (name : String) : String :=
  f.dialect.escape name

end QueryFactory

namespace Query

/-- Add a comparison that has to hold as well. -/
def filter (q : Query) (property : String) (operator : Operator) (operand : Operand) :
    Except QueryError Query :=
  match q.criteria.filter property operator operand with
  | .error e => .error (.invalidPredicate e)
  | .ok criteria => .ok { q with criteria }

/-- Both criteria have to hold; the rest is that of the first query. -/
def and (q other : Query) : Query :=
  { q with criteria := q.criteria.and other.criteria }

/-- One of the criteria has to hold; the rest is that of the first query. -/
def or (q other : Query) : Query :=
  { q with criteria := q.criteria.or other.criteria }

/-- Add a least significant sort key. -/
def orderBy (q : Query) (property : String) (direction : Direction) : Query :=
  { q with criteria := q.criteria.orderBy property direction }

/-- Set the window, replacing an earlier one. -/
def page (q : Query) (offset limit : Int64) : Except QueryError Query :=
  match q.criteria.page offset limit with
  | .error e => .error (.invalidPredicate e)
  | .ok criteria => .ok { q with criteria }

/-- The statement that selects the matching entities. -/
def statement (q : Query) : Except QueryError Sql.Statement :=
  q.resolver.statement q.dialect q.entity q.criteria

/-- The statement that counts the matching entities. -/
def countStatement (q : Query) : Except QueryError Sql.Statement :=
  q.resolver.countStatement q.dialect q.entity q.criteria

end Query

end EntityQuery
