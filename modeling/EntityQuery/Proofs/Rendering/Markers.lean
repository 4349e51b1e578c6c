import Mathlib.Data.List.Basic
import EntityQuery.Proofs.Rendering.Trees

/-!
# Markers and parameters

A statement has one marker for each of its parameters, and they stand in the same
order: the parameters of what is selected, of the join conditions, of the
condition and of the ordering, each read from left to right.

## Main definitions

- `Sql.Expr.params`, `Sql.Select.params` — the parameters of a tree, in order
- `Sql.Statement.Marked` — the markers in the text are those of the parameters

## Main statements

- `Sql.Select.marked_render`, `Sql.Select.params_eq` — rendered statements
-/

namespace EntityQuery.Sql

open Token

variable {d : Dialect}

-- ════════════════════════════════════════════════════════════════════════
-- Parameters of a tree
-- ════════════════════════════════════════════════════════════════════════

mutual

/-- The parameters of an expression, from left to right. -/
def Expr.params : Expr → List Param
  | .and l r => l.params ++ r.params
  | .or l r => l.params ++ r.params
  | .compare _ l r => l.params ++ r.params
  | .isIn e items => e.params ++ itemParams items
  | .nullTest _ e => e.params
  | .column _ => []
  | .param p => [p]
  | .countRows => []

/-- The parameters of a list of expressions, from left to right. -/
def itemParams : List Expr → List Param
  | [] => []
  | e :: rest => e.params ++ itemParams rest

end

/-- The parameters of a statement: of what is selected, of the join conditions, of
  the condition and of the ordering. -/
def Select.params (s : Select) : List Param :=
  s.outputs.flatMap (·.expr.params) ++ s.joins.flatMap (·.on.params)
    ++ s.condition.toList.flatMap Expr.params ++ s.ordering.flatMap (·.target.params)

/-- Scanning the text of a statement finds one marker for each parameter, and they
  are numbered in order. -/
def Statement.Marked (d : Dialect) (s : Statement) : Prop :=
  ∃ tokens, d.tokens s.text.toList = some tokens ∧
    marks tokens = (List.range s.params.length).map d.marker

theorem marks_flatMap {α : Type} {write : α → List (Token Param)} {xs : List α} :
    marks (xs.flatMap write) = xs.flatMap fun x => marks (write x) := by
  induction xs with
  | nil => rfl
  | cons x rest ih => rw [List.flatMap_cons, marks_append, ih, List.flatMap_cons]

/-- Commas separate groups of tokens without adding markers. -/
theorem marks_separated {groups : List (List (Token Param))} :
    marks (separated groups) = groups.flatMap marks := by
  cases groups with
  | nil => rfl
  | cons group rest => simp [separated, marks_flatMap]

theorem itemParams_eq {items : List Expr} : itemParams items = items.flatMap Expr.params := by
  induction items with
  | nil => rfl
  | cons e rest ih => rw [itemParams, ih, List.flatMap_cons]

theorem marks_table {t : TableName} : marks (tableTokens d t) = [] := by
  rw [tableTokens, tablePieces]
  cases t.schema <;> simp [Piece.tokens, marks]

/-- The markers of an expression are its parameters. -/
theorem Expr.marks_tokens {e : Expr} : marks (e.tokens d) = e.params := by
  induction e using Expr.induct with
  | binary b l r ihl ihr =>
    have hparams : (b.apply l r).params = l.params ++ r.params := by cases b <;> rfl
    simp [tokens_binary, hparams, ihl, ihr]
  | isIn e items ih ihitems =>
    have hitems : (items.map (tokens d)).flatMap marks = items.flatMap params := by
      rw [List.flatMap_map]
      exact List.flatMap_congr ihitems
    simp [tokens_isIn, params, ih, marks_separated, itemParams_eq, hitems]
  | nullTest test e ih => simp [tokens_nullTest, params, ih]
  | column c => simp [tokens_column, columnTokens, params, marks_table, marks]
  | param p => rfl
  | countRows => simp [tokens_countRows, params]

namespace Select

variable {s : Select}

/-- The markers of a statement are its parameters. -/
theorem marks_tokens : marks (s.tokens d) = s.params := by
  have houtputs : (s.outputs.map (Output.tokens d)).flatMap marks =
      s.outputs.flatMap (·.expr.params) := by
    rw [List.flatMap_map]
    congr 1
    funext o
    simp [Output.tokens, Expr.marks_tokens, marks]
  have hjoins : marks (s.joins.flatMap (Join.tokens d)) = s.joins.flatMap (·.on.params) := by
    rw [marks_flatMap]
    congr 1
    funext j
    simp [Join.tokens, Expr.marks_tokens, marks_table]
  have hcondition : marks (conditionTokens d s.condition) =
      s.condition.toList.flatMap Expr.params := by
    cases s.condition with
    | none => rfl
    | some e => simp [conditionTokens, Expr.marks_tokens]
  have hordering : marks (orderingTokens d s.ordering) = s.ordering.flatMap (·.target.params) := by
    cases s.ordering with
    | nil => rfl
    | cons k rest =>
      rw [orderingTokens, marks_append, marks_fixed, List.nil_append, marks_separated,
        List.flatMap_map]
      congr 1
      funext k'
      simp [OrderKey.tokens, Expr.marks_tokens]
  have hwindow : marks (windowTokens d (!s.ordering.isEmpty) s.window) = [] := by
    cases s.window with
    | none => rfl
    | some w => exact marks_fixed
  simp [tokens_eq, params, marks_separated, marks_table, houtputs, hjoins, hcondition, hordering,
    hwindow]

/-- A statement binds the parameters of its tree, in order. -/
theorem params_eq : (s.render d).params = s.params := by
  rw [params_render, marks_tokens]

/-- The markers in the text of a statement are those of its parameters. -/
theorem marked_render : (s.render d).Marked d := by
  refine ⟨_, tokens_render, ?_⟩
  rw [marks_numbered, params_render, List.range_eq_range']

end Select

end EntityQuery.Sql
