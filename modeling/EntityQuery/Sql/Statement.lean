import EntityQuery.Sql.Select

/-!
# Statements

A statement is a text with markers and the list of parameters bound to them. It
is written piece by piece: fixed text, names, parameters and the window of rows.
The pieces of a select statement do not depend on the dialect; the dialect only
decides how a piece is spelled.

## Main definitions

- `Sql.Piece` — a piece of a statement
- `Sql.Statement` — a text and its parameters
- `Sql.Statement.push` — write one more piece
- `Sql.Select.pieces` — the pieces of a select statement
- `Sql.Select.render` — a select statement in a dialect
-/

namespace EntityQuery.Sql

/-- A piece of a statement. -/
inductive Piece
  /-- Text that stands for itself. -/
  | text (text : String)
  /-- A name, to be quoted. -/
  | name (name : String)
  /-- A parameter, to be marked and bound. -/
  | param (param : Param)
  /-- The window of rows, and whether the statement is ordered. -/
  | paging (window : Window) (ordered : Bool)

/-- A text with markers and the parameters bound to them, in the same order. -/
structure Statement where
  text : String
  params : List Param
deriving DecidableEq

namespace Piece

/-- How a piece is spelled when a number of parameters precedes it. -/
def spell (d : Dialect) (index : Nat) : Piece → String
  | .text s => s
  | .name s => d.quote s
  | .param _ => d.marker index
  | .paging w ordered => d.paging w ordered

/-- The parameters that a piece binds. -/
def params : Piece → List Param
  | .param p => [p]
  | _ => []

end Piece

namespace Statement

/-- The statement nothing has been written to. -/
def empty : Statement :=
  ⟨"", []⟩

/-- Write one more piece. -/
def push (d : Dialect) (s : Statement) (piece : Piece) : Statement :=
  ⟨s.text ++ piece.spell d s.params.length, s.params ++ piece.params⟩

/-- Write pieces in order. -/
def ofPieces (d : Dialect) (pieces : List Piece) : Statement :=
  pieces.foldl (push d) empty

/-- Whatever the dialect, the parameters bound by further pieces follow in order. -/
theorem params_foldl_push {d : Dialect} {s : Statement} {pieces : List Piece} :
    (pieces.foldl (push d) s).params = s.params ++ pieces.flatMap Piece.params := by
  induction pieces generalizing s with
  | nil => simp
  | cons piece rest ih => simp [ih, push]

/-- The parameters of a statement are those its pieces bind, in order. -/
theorem params_ofPieces {d : Dialect} {pieces : List Piece} :
    (ofPieces d pieces).params = pieces.flatMap Piece.params := by
  simp [ofPieces, params_foldl_push, empty]

end Statement

/-- How a comparison is written between its sides. -/
def compareText : CompareOp → String
  | .equals => " = "
  | .notEquals => " <> "
  | .greaterThan => " > "
  | .greaterOrEqual => " >= "
  | .lessThan => " < "
  | .lessOrEqual => " <= "
  | .like => " LIKE "

/-- How a test for the absence of a value is written after the value. -/
def NullTest.text : NullTest → String
  | .isNull => " IS NULL"
  | .isNotNull => " IS NOT NULL"

/-- How a direction is written after what is ordered by. -/
def directionText : Direction → String
  | .ascending => " ASC"
  | .descending => " DESC"

/-- The pieces of a table name. -/
def tablePieces (t : TableName) : List Piece :=
  match t.schema with
  | some schema => [.name schema, .text ".", .name t.name]
  | none => [.name t.name]

/-- The pieces of a column reference. -/
def columnPieces (c : ColumnRef) : List Piece :=
  tablePieces c.table ++ [.text ".", .name c.name]

mutual

/-- The pieces of an expression. Every compound expression is parenthesised. -/
def Expr.pieces : Expr → List Piece
  | .and l r => .text "(" :: l.pieces ++ .text " AND " :: r.pieces ++ [.text ")"]
  | .or l r => .text "(" :: l.pieces ++ .text " OR " :: r.pieces ++ [.text ")"]
  | .compare op l r => .text "(" :: l.pieces ++ .text (compareText op) :: r.pieces ++ [.text ")"]
  | .isIn e items =>
    .text "(" :: e.pieces ++ .text " IN " :: .text "(" :: itemPieces items
      ++ [.text ")", .text ")"]
  | .nullTest test e => .text "(" :: e.pieces ++ [.text test.text, .text ")"]
  | .column c => columnPieces c
  | .param p => [.param p]
  | .countRows => [.text "COUNT", .text "(", .text "*", .text ")"]

/-- The pieces of a list of expressions, separated by commas. -/
def itemPieces : List Expr → List Piece
  | [] => []
  | e :: rest => e.pieces ++ furtherItemPieces rest

/-- The pieces of further expressions of a list, each after a comma. -/
def furtherItemPieces : List Expr → List Piece
  | [] => []
  | e :: rest => .text ", " :: e.pieces ++ furtherItemPieces rest

end

/-- The pieces of a selected column. -/
def Output.pieces (o : Output) : List Piece :=
  o.expr.pieces ++ [.text " AS ", .name o.name]

/-- The pieces of a join. -/
def Join.pieces (j : Join) : List Piece :=
  .text " LEFT OUTER JOIN " :: tablePieces j.table ++ .text " ON " :: j.on.pieces

/-- The pieces of a key of an ordering. -/
def OrderKey.pieces (k : OrderKey) : List Piece :=
  k.target.pieces ++ [.text (directionText k.direction)]

/-- Groups of pieces separated by commas. -/
def commaSeparated : List (List Piece) → List Piece
  | [] => []
  | group :: rest => group ++ rest.flatMap (.text ", " :: ·)

namespace Select

/-- The pieces of the condition. -/
def conditionPieces (s : Select) : List Piece :=
  match s.condition with
  | none => []
  | some e => .text " WHERE " :: e.pieces

/-- The pieces of the ordering. -/
def orderingPieces (s : Select) : List Piece :=
  match s.ordering with
  | [] => []
  | keys => .text " ORDER BY " :: commaSeparated (keys.map OrderKey.pieces)

/-- The pieces of the window. -/
def windowPieces (s : Select) : List Piece :=
  match s.window with
  | none => []
  | some w => [.paging w !s.ordering.isEmpty]

/-- The pieces of a select statement. -/
def pieces (s : Select) : List Piece :=
  .text "SELECT " :: commaSeparated (s.outputs.map Output.pieces)
    ++ .text " " :: .text "FROM " :: tablePieces s.source ++ s.joins.flatMap Join.pieces
    ++ s.conditionPieces ++ s.orderingPieces ++ s.windowPieces

/-- A select statement in a dialect. -/
def render (d : Dialect) (s : Select) : Statement :=
  .ofPieces d s.pieces

end Select

end EntityQuery.Sql
