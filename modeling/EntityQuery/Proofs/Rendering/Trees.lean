import EntityQuery.Proofs.Rendering.Pieces

/-!
# The tokens of a statement tree

Rendering walks the tree of a statement. Here its tokens are described node by
node, and the scanner of every dialect finds exactly these tokens in the text.

## Main definitions

- `Sql.Binary` — what stands between two operands, so that the nodes with two
  operands are one case
- `Sql.Expr.tokens`, `Sql.Select.tokens` — the tokens of a tree

## Main statements

- `Sql.Expr.induct` — induction over expressions and the items of their lists
- `Sql.Select.tokens_eq` — a statement clause by clause
- `Sql.Select.text_render`, `Sql.Select.params_render` — the text and the parameters
  of a statement from its tokens
- `Sql.Select.spaced_tokens` — its names and markers are followed by delimiters
- `Sql.Select.tokens_render` — the tokens found in the text of a statement
-/

namespace EntityQuery.Sql

open Token

variable {d : Dialect}

-- ════════════════════════════════════════════════════════════════════════
-- Expressions
-- ════════════════════════════════════════════════════════════════════════

/-- What stands between two operands. -/
inductive Binary
  | and
  | or
  | compare (op : CompareOp)

/-- The expression made from two operands. -/
def Binary.apply : Binary → Expr → Expr → Expr
  | .and => .and
  | .or => .or
  | .compare op => .compare op

/-- How two operands are written together. -/
def Binary.text : Binary → String
  | .and => " AND "
  | .or => " OR "
  | .compare op => compareText op

/-- Induction over expressions, with the claim for every item of a list. -/
@[elab_as_elim]
theorem Expr.induct {P : Expr → Prop} (binary : ∀ (b : Binary) (l r), P l → P r → P (b.apply l r))
    (isIn : ∀ e items, P e → (∀ x ∈ items, P x) → P (.isIn e items))
    (nullTest : ∀ test e, P e → P (.nullTest test e)) (column : ∀ c, P (.column c))
    (param : ∀ p, P (.param p)) (countRows : P .countRows) (e : Expr) : P e :=
  @Expr.rec P (fun items => ∀ x ∈ items, P x) (binary .and) (binary .or)
    (fun op => binary (.compare op)) isIn nullTest column param countRows
    (fun _ h => nomatch h) (fun _ _ hx hrest => List.forall_mem_cons.2 ⟨hx, hrest⟩) e

/-- The tokens of a table name. -/
def tableTokens (d : Dialect) (t : TableName) : List (Token Param) :=
  tokensOf d (tablePieces t)

/-- The tokens of a column reference. -/
def columnTokens (d : Dialect) (c : ColumnRef) : List (Token Param) :=
  tableTokens d c.table ++ (fixed "." ++ [.name c.name])

namespace Expr

variable {l r e : Expr} {items : List Expr}

/-- The tokens of an expression. -/
def tokens (d : Dialect) (e : Expr) : List (Token Param) :=
  tokensOf d e.pieces

/-- The pieces of a list of expressions are separated by commas. -/
theorem itemPieces_eq : itemPieces items = commaSeparated (items.map pieces) := by
  have hfurther : ∀ rest, furtherItemPieces rest =
      (rest.map pieces).flatMap (Piece.text ", " :: ·) := by
    intro rest
    induction rest with
    | nil => rfl
    | cons e rest ih => simp [furtherItemPieces, ih]
  cases items with
  | nil => rfl
  | cons e rest => rw [itemPieces, hfurther, List.map_cons, commaSeparated]

theorem tokens_binary (b : Binary) : (b.apply l r).tokens d =
    fixed "(" ++ (l.tokens d ++ (fixed b.text ++ (r.tokens d ++ fixed ")"))) := by
  cases b <;> simp [Binary.apply, Binary.text, tokens, pieces, Piece.tokens]

theorem tokens_isIn : (isIn e items).tokens d =
    fixed "(" ++ (e.tokens d ++ (fixed " IN " ++ (fixed "(" ++
      (separated (items.map (tokens d)) ++ (fixed ")" ++ fixed ")"))))) := by
  have hitems : tokensOf d (itemPieces items) = separated (items.map (tokens d)) := by
    rw [itemPieces_eq, tokensOf_commaSeparated, List.map_map]
    rfl
  simp [tokens, pieces, Piece.tokens, hitems]

theorem tokens_nullTest {test : NullTest} : (nullTest test e).tokens d =
    fixed "(" ++ (e.tokens d ++ (fixed test.text ++ fixed ")")) := by
  simp [tokens, pieces, Piece.tokens]

theorem tokens_column {c : ColumnRef} : (column c).tokens d = columnTokens d c := by
  simp [tokens, pieces, columnPieces, columnTokens, tableTokens, Piece.tokens]

theorem tokens_param {p : Param} : (param p).tokens d = [.marker p] :=
  rfl

theorem tokens_countRows : countRows.tokens d =
    fixed "COUNT" ++ (fixed "(" ++ (fixed "*" ++ fixed ")")) := by
  simp [tokens, pieces, Piece.tokens]

end Expr

-- ════════════════════════════════════════════════════════════════════════
-- Statements
-- ════════════════════════════════════════════════════════════════════════

/-- The tokens of a selected column. -/
def Output.tokens (d : Dialect) (o : Output) : List (Token Param) :=
  o.expr.tokens d ++ (fixed " AS " ++ [.name o.name])

/-- The tokens of a join. -/
def Join.tokens (d : Dialect) (j : Join) : List (Token Param) :=
  fixed " LEFT OUTER JOIN " ++ (tableTokens d j.table ++ (fixed " ON " ++ j.on.tokens d))

/-- The tokens of a key of an ordering. -/
def OrderKey.tokens (d : Dialect) (k : OrderKey) : List (Token Param) :=
  k.target.tokens d ++ fixed (directionText k.direction)

/-- The tokens of the condition. -/
def conditionTokens (d : Dialect) : Option Expr → List (Token Param)
  | none => []
  | some e => fixed " WHERE " ++ e.tokens d

/-- The tokens of the ordering. -/
def orderingTokens (d : Dialect) : List OrderKey → List (Token Param)
  | [] => []
  | k :: rest => fixed " ORDER BY " ++ separated ((k :: rest).map (OrderKey.tokens d))

/-- The tokens of the window. -/
def windowTokens (d : Dialect) (ordered : Bool) : Option Window → List (Token Param)
  | none => []
  | some w => fixed (d.paging w ordered)

namespace Select

variable {s : Select}

/-- The tokens of a select statement. -/
def tokens (d : Dialect) (s : Select) : List (Token Param) :=
  tokensOf d s.pieces

/-- The tokens of a select statement, clause by clause. -/
theorem tokens_eq : s.tokens d =
    fixed "SELECT " ++ (separated (s.outputs.map (Output.tokens d)) ++ (fixed " " ++
      (fixed "FROM " ++ (tableTokens d s.source ++ (s.joins.flatMap (Join.tokens d) ++
        (conditionTokens d s.condition ++ (orderingTokens d s.ordering ++
          windowTokens d (!s.ordering.isEmpty) s.window))))))) := by
  have houtput : tokensOf d ∘ Output.pieces = Output.tokens d := by
    funext o
    simp [Output.pieces, Output.tokens, Expr.tokens, Piece.tokens]
  have hkey : tokensOf d ∘ OrderKey.pieces = OrderKey.tokens d := by
    funext k
    simp [OrderKey.pieces, OrderKey.tokens, Expr.tokens, Piece.tokens]
  have hjoins : tokensOf d (s.joins.flatMap Join.pieces) = s.joins.flatMap (Join.tokens d) := by
    rw [tokensOf, List.flatMap_assoc]
    congr 1
    funext j
    show tokensOf d j.pieces = j.tokens d
    simp [Join.pieces, Join.tokens, Expr.tokens, tableTokens, Piece.tokens]
  have hcondition : tokensOf d s.conditionPieces = conditionTokens d s.condition := by
    rw [conditionPieces]
    cases s.condition with
    | none => rfl
    | some e => rw [tokensOf_cons]; rfl
  have hordering : tokensOf d s.orderingPieces = orderingTokens d s.ordering := by
    rw [orderingPieces]
    cases s.ordering with
    | nil => rfl
    | cons k rest =>
      rw [tokensOf_cons, tokensOf_commaSeparated, List.map_map, hkey]
      rfl
  have hwindow : tokensOf d s.windowPieces = windowTokens d (!s.ordering.isEmpty) s.window := by
    rw [windowPieces]
    cases s.window with
    | none => rfl
    | some w => simp [Piece.tokens, windowTokens]
  simp [tokens, pieces, tokensOf_commaSeparated, houtput, hjoins, hcondition, hordering, hwindow,
    Piece.tokens, tableTokens]

/-- The text of a statement is that of its tokens. -/
theorem text_render : (s.render d).text.toList = written d 0 (s.tokens d) :=
  Statement.text_eq

/-- The parameters of a statement are what its markers know. -/
theorem params_render : (s.render d).params = marks (s.tokens d) :=
  Statement.params_eq

end Select

-- ════════════════════════════════════════════════════════════════════════
-- Scanning the text of a statement
-- ════════════════════════════════════════════════════════════════════════

theorem complete_table {t : TableName} : Complete (tableTokens d t) := by
  rw [tableTokens, tablePieces]
  cases t.schema with
  | none => exact Complete.name
  | some schema => exact Complete.name.append (Detached.fixed_append (by decide) Complete.name)

theorem Expr.complete {e : Expr} : Complete (e.tokens d) := by
  have hclose : Detached (fixed ")" : List (Token Param)) := Detached.fixed (by decide)
  induction e using Expr.induct with
  | binary b l r ihl ihr =>
    rw [tokens_binary]
    refine (ihl.append (Detached.fixed_append ?_ (ihr.append hclose))).fixed_append (by decide)
    cases b with
    | and | or => decide
    | compare op => cases op <;> decide
  | isIn e items ih ihitems =>
    rw [tokens_isIn]
    have hitems : Complete (separated (items.map (tokens d))) := by
      refine Complete.separated fun group hgroup => ?_
      obtain ⟨x, hx, rfl⟩ := List.mem_map.1 hgroup
      exact ihitems x hx
    exact (ih.append (Detached.fixed_append (by decide) ((hitems.append
      (hclose.append hclose)).fixed_append (by decide)))).fixed_append (by decide)
  | nullTest test e ih =>
    rw [tokens_nullTest]
    refine (ih.append (Detached.append (Detached.fixed ?_) hclose)).fixed_append (by decide)
    cases test <;> decide
  | column c =>
    rw [tokens_column]
    exact complete_table.append (Detached.fixed_append (by decide) Complete.name)
  | param p => exact Complete.marker
  | countRows =>
    rw [tokens_countRows]
    exact ((hclose.1.fixed_append (by decide)).fixed_append (by decide)).fixed_append (by decide)

/-- The clause that selects a window begins with a delimiter. -/
theorem isSeparator_paging {w : Window} {ordered : Bool} :
    isSeparator (d.paging w ordered) = true := by
  have hlimit (s : String) (hs : isSeparator s = true) :
      isSeparator (s ++ Nat.repr w.limit) = true :=
    isSeparator_append hs (isPlain_repr w.limit)
  have hoffset (s : String) (hs : isSeparator s = true) :
      isSeparator (s ++ Nat.repr w.offset) = true :=
    isSeparator_append hs (isPlain_repr w.offset)
  cases d with
  | postgresql => exact hoffset _ (isSeparator_append (hlimit " LIMIT " (by decide)) (by decide))
  | sqlserver =>
    refine isSeparator_append (hlimit _ (isSeparator_append (hoffset _ ?_) (by decide))) (by decide)
    cases ordered <;> decide
  | mysql => exact hlimit _ (isSeparator_append (hoffset " LIMIT " (by decide)) (by decide))
  | sqlite => exact hoffset _ (isSeparator_append (hlimit " LIMIT " (by decide)) (by decide))

namespace Select

variable {s : Select}

/-- Every name and every marker of a statement is followed by a delimiter. -/
theorem spaced_tokens : Spaced (s.tokens d) := by
  have houtputs : Complete (separated (s.outputs.map (Output.tokens d))) := by
    refine Complete.separated fun group hgroup => ?_
    obtain ⟨o, -, rfl⟩ := List.mem_map.1 hgroup
    exact Expr.complete.append (Detached.fixed_append (by decide) Complete.name)
  have hjoins : Detached (s.joins.flatMap (Join.tokens d)) :=
    Detached.flatMap fun j _ => Detached.fixed_append (by decide)
      (complete_table.append (Detached.fixed_append (by decide) Expr.complete))
  have hcondition : Detached (conditionTokens d s.condition) := by
    cases s.condition with
    | none => exact Detached.nil
    | some e => exact Detached.fixed_append (by decide) Expr.complete
  have hkey (k : OrderKey) : Complete (k.tokens d) := by
    refine Expr.complete.append (Detached.fixed ?_)
    cases k.direction <;> decide
  have hordering : Detached (orderingTokens d s.ordering) := by
    cases s.ordering with
    | nil => exact Detached.nil
    | cons k rest =>
      refine Detached.fixed_append (by decide) (Complete.separated fun group hgroup => ?_)
      obtain ⟨k', -, rfl⟩ := List.mem_map.1 hgroup
      exact hkey k'
  have hwindow : Detached (windowTokens d (!s.ordering.isEmpty) s.window) := by
    cases s.window with
    | none => exact Detached.nil
    | some w => exact Detached.fixed isSeparator_paging
  -- Every clause after the selected columns begins with a space.
  have hclauses := hjoins.append (hcondition.append (hordering.append hwindow))
  have hfrom := (complete_table (d := d) (t := s.source)).append hclauses
  have hall := (houtputs.append (Detached.fixed_append (s := " ") (by decide)
    (hfrom.fixed_append (s := "FROM ") (by decide)))).fixed_append (s := "SELECT ") (by decide)
  have hspaced := hall (show delimited [] = true from rfl) trivial
  rw [tokens_eq]
  simpa using hspaced

/-- Scanning the text of a statement finds its tokens, the markers numbered in order. -/
theorem tokens_render : d.tokens (s.render d).text.toList = some (numbered d 0 (s.tokens d)) := by
  rw [text_render]
  exact Dialect.tokens_written spaced_tokens

end Select

end EntityQuery.Sql
