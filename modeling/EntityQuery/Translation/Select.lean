import EntityQuery.Criteria.Basic
import EntityQuery.Mapping.Resolver
import EntityQuery.Sql.Statement
import EntityQuery.Translation.Stored

/-!
# From criteria to statements

Criteria over an entity become a select statement over its tables. The predicate
is walked depth first, then the sort keys; an extension table is joined when one
of its columns is mentioned for the first time, so the order of the joins, of the
parameters and of possible faults is the order of mention.

## Main definitions

- `QueryError` — why criteria cannot be translated
- `Joins` — the joins made so far
- `EntityDescriptor.columnOf` — mention a column, joining its table if need be
- `Resolver.select`, `Resolver.countSelect` — the statement trees
- `Resolver.statement`, `Resolver.countStatement` — the statements in a dialect
-/

namespace EntityQuery

open Sql

/-- Why criteria cannot be translated. -/
inductive QueryError
  | lookup (error : LookupError)
  | invalidPredicate (error : PredicateError)
deriving DecidableEq

def QueryError.message : QueryError → String
  | .lookup e => e.message
  | .invalidPredicate e => "invalid predicate: " ++ e.message

/-- The joins made so far, in order of first mention. -/
abbrev Joins : Type :=
  List Join

namespace EntityDescriptor

/-- The join of an extension table by one of its columns. -/
def joinOf (e : EntityDescriptor) (table : TableName) (joinColumn : String) : Join :=
  { table
    on := .compare .equals (.column ⟨table, joinColumn⟩) (.column ⟨e.primaryTable, e.primaryKey⟩) }

/-- The joins after the column of a property has been mentioned: its extension
  table is joined unless it is already. -/
def mention (e : EntityDescriptor) (b : PropertyBinding) (joins : Joins) : Joins :=
  match b.joinColumn with
  | none => joins
  | some joinColumn =>
    if b.table ∈ joins.map Join.table then joins else joins ++ [e.joinOf b.table joinColumn]

/-- The column of a property. -/
def columnOf (b : PropertyBinding) : Expr :=
  .column ⟨b.table, b.column.name⟩

/-- The binding of a property, as a step of a translation. -/
def bindingOf (e : EntityDescriptor) (property : String) : Except QueryError PropertyBinding :=
  (e.binding property).mapError .lookup

/-- The parameters for the values compared with a property, in order. -/
def paramsOf (b : PropertyBinding) : List Value → Except PredicateError (List Expr)
  | [] => .ok []
  | v :: rest =>
    match b.param v with
    | .error e => .error e
    | .ok p => (paramsOf b rest).map (.param p :: ·)

/-- The condition of a test on a property. -/
def testCondition (b : PropertyBinding) : Test → Except PredicateError Expr
  | .compare op v =>
    if op = .like ∧ !b.column.type.supportsPatterns then
      .error (.patternOnNonText b.property b.column.type)
    else (b.param v).map fun p => .compare op (columnOf b) (.param p)
  | .isIn first rest => (paramsOf b (first :: rest)).map fun items => .isIn (columnOf b) items
  | .isNull => .ok (.nullTest .isNull (columnOf b))
  | .isNotNull => .ok (.nullTest .isNotNull (columnOf b))

/-- The condition of a predicate, and the joins it needs beside those made so far. -/
def condition (e : EntityDescriptor) : Predicate → Joins → Except QueryError (Expr × Joins)
  | .comparison c, joins =>
    match e.bindingOf c.property with
    | .error err => .error err
    | .ok b =>
      match testCondition b c.test with
      | .error err => .error (.invalidPredicate err)
      | .ok x => .ok (x, e.mention b joins)
  | .and l r, joins =>
    match condition e l joins with
    | .error err => .error err
    | .ok (x, joins) =>
      match condition e r joins with
      | .error err => .error err
      | .ok (y, joins) => .ok (.and x y, joins)
  | .or l r, joins =>
    match condition e l joins with
    | .error err => .error err
    | .ok (x, joins) =>
      match condition e r joins with
      | .error err => .error err
      | .ok (y, joins) => .ok (.or x y, joins)

/-- The condition of an optional predicate. -/
def condition? (e : EntityDescriptor) (predicate : Option Predicate) (joins : Joins) :
    Except QueryError (Option Expr × Joins) :=
  match predicate with
  | none => .ok (none, joins)
  | some p => (e.condition p joins).map fun (x, joins) => (some x, joins)

/-- The keys of an ordering, and the joins they need beside those made so far. -/
def ordering (e : EntityDescriptor) :
    List SortKey → Joins → Except QueryError (List OrderKey × Joins)
  | [], joins => .ok ([], joins)
  | k :: rest, joins =>
    match e.bindingOf k.property with
    | .error err => .error err
    | .ok b =>
      match ordering e rest (e.mention b joins) with
      | .error err => .error err
      | .ok (keys, joins) => .ok (⟨columnOf b, k.direction⟩ :: keys, joins)

/-- Look properties up in order, for their faults only. -/
def checkMapped (e : EntityDescriptor) : List String → Except QueryError Unit
  | [] => .ok ()
  | property :: rest =>
    match e.bindingOf property with
    | .error err => .error err
    | .ok _ => checkMapped e rest

/-- The columns of the primary table, returned under the names of their properties. -/
def outputs (e : EntityDescriptor) : List Output :=
  e.primaryBindings.map fun b => ⟨b.property, .column ⟨e.primaryTable, b.column.name⟩⟩

/-- The statement that selects the matching rows of the primary table. -/
def select (e : EntityDescriptor) (c : Criteria) : Except QueryError Select :=
  match e.condition? c.predicate [] with
  | .error err => .error err
  | .ok (condition, joins) =>
    match e.ordering c.sortKeys joins with
    | .error err => .error err
    | .ok (ordering, joins) =>
      .ok { outputs := e.outputs, source := e.primaryTable, joins, condition, ordering
            window := c.window }

/-- The statement that counts the matching rows. Ordering and window do not
  affect the count and are left out, but every sort key still has to be mapped. -/
def countSelect (e : EntityDescriptor) (c : Criteria) : Except QueryError Select :=
  match e.checkMapped c.referencedProperties with
  | .error err => .error err
  | .ok () =>
    match e.condition? c.predicate [] with
    | .error err => .error err
    | .ok (condition, joins) => .ok { Sql.countSelect e.primaryTable with joins, condition }

end EntityDescriptor

namespace Resolver

/-- The statement tree that selects the matching entities. -/
def select (r : Resolver) (entity : String) (c : Criteria) : Except QueryError Select :=
  match r.descriptor entity with
  | .error err => .error (.lookup err)
  | .ok e => e.select c

/-- The statement tree that counts the matching entities. -/
def countSelect (r : Resolver) (entity : String) (c : Criteria) : Except QueryError Select :=
  match r.descriptor entity with
  | .error err => .error (.lookup err)
  | .ok e => e.countSelect c

/-- The statement that selects the matching entities, in a dialect. -/
def statement (r : Resolver) (d : Dialect) (entity : String) (c : Criteria) :
    Except QueryError Statement :=
  (r.select entity c).map (Select.render d)

/-- The statement that counts the matching entities, in a dialect. -/
def countStatement (r : Resolver) (d : Dialect) (entity : String) (c : Criteria) :
    Except QueryError Statement :=
  (r.countSelect entity c).map (Select.render d)

end Resolver

end EntityQuery
