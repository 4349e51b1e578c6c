import EntityQuery.Sql.Select

/-!
# What a select statement returns

The meaning of a statement tree over a database instance. Conditions take one of
three truth values. A column is looked up among the tables in scope and has to
name exactly one of them; a statement that refers to anything else has no result.

## Main definitions

- `Truth` — the three truth values, with conjunction and disjunction
- `Row`, `Database` — rows of cells, tables of rows
- `Operators` — a reading of the comparisons of stored values with parameters
- `Sql.Scope`, `Sql.Expr.truth?` — the rows in scope, the truth of a condition
- `Sql.Join.extend?` — a left outer join with what is in scope
- `Sql.Select.results?` — what a statement returns, before its window is applied

## Design notes

Joins compare two columns with each other, and two columns are equal if both hold
the same value; a cell without a value is equal to nothing. Every other
comparison is between a column and parameters, and `Operators` leaves it open.
-/

namespace EntityQuery

/-- The truth values of conditions. -/
inductive Truth
  | no
  | unknown
  | yes
deriving DecidableEq

namespace Truth

/-- Both hold. -/
def and : Truth → Truth → Truth
  | .no, _ => .no
  | _, .no => .no
  | .yes, t => t
  | .unknown, _ => .unknown

/-- One of them holds. -/
def or : Truth → Truth → Truth
  | .yes, _ => .yes
  | _, .yes => .yes
  | .no, t => t
  | .unknown, _ => .unknown

end Truth

/-- The cells of a row by column name. A cell may hold no value. -/
abbrev Row (V : Type) : Type :=
  String → Option V

/-- The row in which no cell holds a value. -/
def Row.absent {V : Type} : Row V :=
  fun _ => none

/-- The rows of every table. -/
abbrev Database (V : Type) : Type :=
  TableName → List (Row V)

/-- A reading of the comparisons of stored values with parameters. -/
structure Operators (V : Type) where
  /-- A comparison with a single parameter. -/
  compare : CompareOp → Option V → Param → Truth
  /-- A comparison with a list of parameters. -/
  isIn : Option V → List Param → Truth
  /-- A test for the absence of a value. -/
  nullTest : Sql.NullTest → Option V → Truth

namespace Sql

variable {V : Type}

/-- Equality of two cells, which a cell without a value never satisfies. -/
def sameValue [DecidableEq V] : Option V → Option V → Truth
  | some v, some w => if v = w then .yes else .no
  | _, _ => .unknown

/-- Cells are equal exactly if both hold the same value. -/
theorem sameValue_eq_yes [DecidableEq V] {a b : Option V} :
    sameValue a b = .yes ↔ ∃ v, a = some v ∧ b = some v := by
  cases a with
  | none => simp [sameValue]
  | some v =>
    cases b with
    | none => simp [sameValue]
    | some w =>
      rw [sameValue]
      split
      · simp_all
      · simp_all [eq_comm]

/-- The tables in scope, each with one of its rows. -/
abbrev Scope (V : Type) : Type :=
  List (TableName × Row V)

/-- The cell a column refers to, if exactly one table in scope has the name. -/
def Scope.cell? (scope : Scope V) (c : ColumnRef) : Option (Option V) :=
  match scope.filter (·.1 = c.table) with
  | [(_, row)] => some (row c.name)
  | _ => none

namespace Expr

/-- The cell of an expression that is a column. -/
def cell? (scope : Scope V) : Expr → Option (Option V)
  | .column c => scope.cell? c
  | _ => none

/-- The parameter of an expression that is one. -/
def param? : Expr → Option Param
  | .param p => some p
  | _ => none

/-- The truth of a condition. -/
def truth? [DecidableEq V] (ops : Operators V) (scope : Scope V) : Expr → Option Truth
  | .and l r => do return (← truth? ops scope l).and (← truth? ops scope r)
  | .or l r => do return (← truth? ops scope l).or (← truth? ops scope r)
  | .compare op (.column a) (.param p) => return ops.compare op (← scope.cell? a) p
  | .compare .equals (.column a) (.column b) =>
    return sameValue (← scope.cell? a) (← scope.cell? b)
  | .isIn (.column a) items => do return ops.isIn (← scope.cell? a) (← items.mapM param?)
  | .nullTest test (.column a) => return ops.nullTest test (← scope.cell? a)
  | _ => none

end Expr

/-- The elements for which a condition is true; it must have a truth value for
  every one of them. -/
def keepTrue? {α : Type} (condition : α → Option Truth) (elements : List α) : Option (List α) :=
  elements.flatMapM fun a => (condition a).map fun t => if t = .yes then [a] else []

/-- A left outer join with what is in scope: one row for every row of the joined
  table that belongs to it, or one without values if there is none. -/
def Join.extend? [DecidableEq V] (ops : Operators V) (db : Database V) (j : Join)
    (scope : Scope V) : Option (List (Scope V)) :=
  match keepTrue? (fun row => j.on.truth? ops (scope ++ [(j.table, row)])) (db j.table) with
  | none => none
  | some [] => some [scope ++ [(j.table, Row.absent)]]
  | some rows => some (rows.map fun row => scope ++ [(j.table, row)])

/-- Left outer joins in order. -/
def joinAll? [DecidableEq V] (ops : Operators V) (db : Database V) :
    List Join → List (Scope V) → Option (List (Scope V))
  | [], scopes => some scopes
  | j :: rest, scopes => (scopes.flatMapM (j.extend? ops db)).bind (joinAll? ops db rest)

/-- What a statement returns for one combination of rows. -/
structure ResultRow (V : Type) where
  /-- The selected cells, under their names. -/
  outputs : List (String × Option V)
  /-- The cells that the result is ordered by. -/
  keys : List (Option V)

namespace Select

/-- The combinations of rows that are joined and kept, in order. -/
def scopes? [DecidableEq V] (ops : Operators V) (db : Database V) (s : Select) :
    Option (List (Scope V)) := do
  let joined ← joinAll? ops db s.joins ((db s.source).map fun row => [(s.source, row)])
  match s.condition with
  | none => return joined
  | some condition => keepTrue? (condition.truth? ops) joined

/-- What a statement returns for one combination of rows. -/
def resultRow? (s : Select) (scope : Scope V) : Option (ResultRow V) := do
  let outputs ← s.outputs.mapM fun o => (o.expr.cell? scope).map fun cell => (o.name, cell)
  let keys ← s.ordering.mapM fun k => k.target.cell? scope
  return { outputs, keys }

/-- What a statement returns, before it is ordered and its window is applied. -/
def results? [DecidableEq V] (ops : Operators V) (db : Database V) (s : Select) :
    Option (List (ResultRow V)) :=
  (s.scopes? ops db).bind fun scopes => scopes.mapM s.resultRow?

end Select

-- ════════════════════════════════════════════════════════════════════════
-- Evaluation that cannot fail
-- ════════════════════════════════════════════════════════════════════════

variable {α β γ : Type}

/-- Where every element has a result, so has the list. -/
theorem mapM_map_eq_some {k : γ → α} {f : α → Option β} {g : γ → β} {elements : List γ}
    (h : ∀ c ∈ elements, f (k c) = some (g c)) :
    (elements.map k).mapM f = some (elements.map g) := by
  induction elements with
  | nil => rfl
  | cons c rest ih =>
    obtain ⟨hc, hrest⟩ := List.forall_mem_cons.1 h
    simp [hc, ih hrest]

/-- Where every element has a list of results, so has the list. -/
theorem flatMapM_map_eq_some {k : γ → α} {f : α → Option (List β)} {g : γ → List β}
    {elements : List γ} (h : ∀ c ∈ elements, f (k c) = some (g c)) :
    (elements.map k).flatMapM f = some (elements.flatMap g) := by
  induction elements with
  | nil => rfl
  | cons c rest ih =>
    obtain ⟨hc, hrest⟩ := List.forall_mem_cons.1 h
    simp [hc, ih hrest]

/-- Where every element has a truth value, the true ones are kept. -/
theorem keepTrue?_map_eq_some {k : γ → α} {condition : α → Option Truth} {truth : γ → Truth}
    {elements : List γ} (h : ∀ c ∈ elements, condition (k c) = some (truth c)) :
    keepTrue? condition (elements.map k) =
      some ((elements.filter fun c => truth c = .yes).map k) := by
  have hstep : ∀ c ∈ elements, (condition (k c)).map (fun t => if t = .yes then [k c] else []) =
      some (if truth c = .yes then [k c] else []) := by
    intro c hc
    rw [h c hc]
    rfl
  rw [keepTrue?, flatMapM_map_eq_some hstep]
  clear h hstep
  induction elements with
  | nil => rfl
  | cons c rest ih =>
    rw [List.flatMap_cons, Option.some.inj ih, List.filter_cons]
    by_cases hc : truth c = .yes <;> simp [hc]

/-- Where every element has a truth value, the true ones are kept. -/
theorem keepTrue?_eq_some {condition : α → Option Truth} {truth : α → Truth} {elements : List α}
    (h : ∀ a ∈ elements, condition a = some (truth a)) :
    keepTrue? condition elements = some (elements.filter fun a => truth a = .yes) := by
  simpa using keepTrue?_map_eq_some (k := id) h

/-- A table whose name is in scope once is found by its name. -/
theorem Scope.cell?_eq_some {scope : Scope V} {table : TableName} {row : Row V} (column : String)
    (hnodup : (scope.map Prod.fst).Nodup) (hmem : (table, row) ∈ scope) :
    scope.cell? ⟨table, column⟩ = some (row column) := by
  have hfilter : scope.filter (·.1 = table) = [(table, row)] := by
    induction scope with
    | nil => simp at hmem
    | cons entry rest ih =>
      have hnodup := List.nodup_cons.1 hnodup
      rcases List.mem_cons.1 hmem with rfl | hmem
      · have hrest : rest.filter (·.1 = table) = [] := by
          rw [List.filter_eq_nil_iff]
          intro other hother heq
          exact hnodup.1 (List.mem_map.2 ⟨other, hother, by simpa using heq⟩)
        simp [hrest]
      · have hne : entry.1 ≠ table := by
          rintro rfl
          exact hnodup.1 (List.mem_map.2 ⟨_, hmem, rfl⟩)
        rw [List.filter_cons_of_neg (by simpa using hne)]
        exact ih hnodup.2 hmem
  rw [Scope.cell?, hfilter]

end Sql

end EntityQuery
