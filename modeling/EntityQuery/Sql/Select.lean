import EntityQuery.Comparing
import EntityQuery.Dialect.Basic
import EntityQuery.Sql.Param

/-!
# Select statements

A select statement as a tree, without a dialect: what is selected, from which
table, which tables are joined, which rows are kept, in what order, and which
window of them.

## Main definitions

- `TableName`, `ColumnRef` — references to tables and columns
- `Sql.Expr` — scalar expressions
- `Sql.Join` — a left outer join
- `Sql.Select` — a select statement
- `Sql.countSelect` — the statement that counts the rows of a table
-/

namespace EntityQuery

/-- The name of a table, within a schema or without one. -/
structure TableName where
  /-- The schema, if the table is named within one. -/
  schema : Option String
  /-- The name within the schema. -/
  name : String
deriving DecidableEq

/-- The name of a table in messages. -/
def TableName.toText (t : TableName) : String :=
  match t.schema with
  | some schema => schema ++ "." ++ t.name
  | none => t.name

/-- A column of a table. -/
structure ColumnRef where
  table : TableName
  name : String
deriving DecidableEq

namespace Sql

/-- A test for the absence of a value. -/
inductive NullTest
  | isNull
  | isNotNull
deriving DecidableEq

/-- A scalar expression. -/
inductive Expr
  | and (left right : Expr)
  | or (left right : Expr)
  | compare (op : CompareOp) (left right : Expr)
  | isIn (value : Expr) (items : List Expr)
  | nullTest (test : NullTest) (value : Expr)
  | column (ref : ColumnRef)
  | param (param : Param)
  /-- The number of rows. -/
  | countRows

/-- A selected column: an expression and the name it is returned under. -/
structure Output where
  /-- The name it is returned under. -/
  name : String
  expr : Expr

/-- A left outer join. -/
structure Join where
  table : TableName
  /-- The condition under which rows belong together. -/
  on : Expr

/-- One key of an ordering. -/
structure OrderKey where
  target : Expr
  direction : Direction

/-- A select statement. -/
structure Select where
  outputs : List Output
  /-- The table rows are selected from. -/
  source : TableName
  /-- The joined tables, in order. -/
  joins : List Join
  /-- The condition rows are kept under; all of them if absent. -/
  condition : Option Expr
  /-- The ordering, the most significant key first. -/
  ordering : List OrderKey
  /-- The window of rows; all of them if absent. -/
  window : Option Window

/-- A statement that selects from a table and does nothing else. -/
def simpleSelect (outputs : List Output) (source : TableName) : Select :=
  { outputs, source, joins := [], condition := none, ordering := [], window := none }

/-- The statement that counts the rows of a table. -/
def countSelect (source : TableName) : Select :=
  simpleSelect [⟨"count", .countRows⟩] source

end Sql

end EntityQuery
