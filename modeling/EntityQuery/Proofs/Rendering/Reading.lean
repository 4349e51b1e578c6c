import EntityQuery.Proofs.Rendering.Trees

/-!
# Reading expressions back

The tokens of an expression determine it. Every compound expression is
parenthesised, and no two connectives begin alike, so an expression can be read
from left to right without looking ahead further than a connective.

## Main definitions

- `Sql.Reader` — what can be read from tokens, and the tokens left
- `Sql.readTable`, `Sql.readExpr` — read a table name and an expression

## Main statements

- `Sql.readMany_flatMap`, `Sql.readSeparated_separated` — lists are read back
- `Sql.reads_table`, `Sql.reads_expr` — table names and expressions are read back

## Design notes

A table name or a column reference could go on unnoticed, by a point and another
name. Everything is therefore read back in front of tokens that do not begin with
a point.
-/

namespace EntityQuery.Sql

open Token

-- ════════════════════════════════════════════════════════════════════════
-- Readers
-- ════════════════════════════════════════════════════════════════════════

/-- What can be read from tokens, and the tokens left. -/
abbrev Reader (α : Type) : Type :=
  List (Token Param) → Option (α × List (Token Param))

/-- The tokens after given characters, if they begin with them. -/
def skipChars : List Char → List (Token Param) → Option (List (Token Param))
  | [], tokens => some tokens
  | c :: chars, .char c' :: rest => if c = c' then skipChars chars rest else none
  | _ :: _, _ => none

/-- The tokens after a fixed text, if they begin with it. -/
def skip (s : String) (tokens : List (Token Param)) : Option (List (Token Param)) :=
  skipChars s.toList tokens

/-- Whether an expression or a name may begin here. -/
def begins : List (Token Param) → Bool
  | [] => false
  | .char c :: _ => c = '(' || c = 'C'
  | .name _ :: _ => true
  | .marker _ :: _ => true

/-- Read groups that are each opened by a fixed text, up to a number of them. -/
def readUpTo {α : Type} (opener : String) (read : Reader α) : Nat → Reader (List α)
  | 0, tokens => some ([], tokens)
  | count + 1, tokens =>
    match skip opener tokens with
    | none => some ([], tokens)
    | some rest => do
      let (x, rest) ← read rest
      let (xs, rest) ← readUpTo opener read count rest
      some (x :: xs, rest)

/-- Read groups that are each opened by a fixed text. -/
def readMany {α : Type} (opener : String) (read : Reader α) : Reader (List α) := fun tokens =>
  readUpTo opener read tokens.length tokens

/-- Read groups separated by commas. -/
def readSeparated {α : Type} (read : Reader α) : Reader (List α) := fun tokens =>
  if begins tokens then do
    let (x, rest) ← read tokens
    let (xs, rest) ← readMany ", " read rest
    some (x :: xs, rest)
  else some ([], tokens)

/-- The tokens do not begin with a point. -/
def NoPoint (tokens : List (Token Param)) : Prop :=
  tokens.head? ≠ some (.char '.')

/-- What is written is read back in front of everything but a point. -/
def Reads {α : Type} (read : Reader α) (write : α → List (Token Param)) (x : α) : Prop :=
  ∀ ⦃rest⦄, NoPoint rest → read (write x ++ rest) = some (x, rest)

variable {α : Type} {s : String} {rest : List (Token Param)}

@[simp]
theorem skip_fixed : skip s (fixed s ++ rest) = some rest := by
  rw [skip, fixed]
  induction s.toList with
  | nil => rfl
  | cons c chars ih => simp [skipChars, ih]

/-- Groups opened by a fixed text do not begin with a point. -/
theorem noPoint_flatMap (opener : String) {first : Char} {chars : List Char}
    (hopener : opener.toList = first :: chars) (hfirst : first ≠ '.')
    (write : α → List (Token Param)) (xs : List α) (hrest : NoPoint rest) :
    NoPoint (xs.flatMap (fun x => fixed opener ++ write x) ++ rest) := by
  cases xs with
  | nil => exact hrest
  | cons y more => simp [NoPoint, fixed, hopener, hfirst]

/-- Groups opened by a fixed text are read back, if the tokens after them do not
  begin like a further group. -/
theorem readMany_flatMap (opener : String) {first : Char} {chars : List Char}
    (hopener : opener.toList = first :: chars) (hfirst : first ≠ '.') {read : Reader α}
    {write : α → List (Token Param)} {xs : List α} (hxs : ∀ x ∈ xs, Reads read write x)
    (hrest : NoPoint rest) (hstop : skip opener rest = none) :
    readMany opener read (xs.flatMap (fun x => fixed opener ++ write x) ++ rest) =
      some (xs, rest) := by
  -- Each group is opened by a text that is not empty, so the tokens outnumber the groups.
  have hupTo : ∀ count, xs.length ≤ count →
      readUpTo opener read count (xs.flatMap (fun x => fixed opener ++ write x) ++ rest) =
        some (xs, rest) := by
    induction xs with
    | nil =>
      intro count _
      cases count with
      | zero => rfl
      | succ count => simp [readUpTo, hstop]
    | cons x more ih =>
      intro count hcount
      cases count with
      | zero => cases hcount
      | succ count =>
        have hx := hxs x List.mem_cons_self (noPoint_flatMap opener hopener hfirst write more hrest)
        have hmore := ih (fun y hy => hxs y (List.mem_cons_of_mem x hy)) count
          (Nat.le_of_succ_le_succ hcount)
        simp [readUpTo, hx, hmore]
  have hlength : xs.length ≤ (xs.flatMap fun x => fixed opener ++ write x).length := by
    clear hxs hupTo
    induction xs with
    | nil => exact Nat.le_refl 0
    | cons x more ih =>
      simp only [List.flatMap_cons, List.length_append, fixed, hopener, List.map_cons,
        List.length_cons] at ih ⊢
      omega
  exact hupTo _ (by rw [List.length_append]; omega)

/-- Groups separated by commas are read back, if nothing that looks like a group
  comes after them. -/
theorem readSeparated_separated {read : Reader α} {write : α → List (Token Param)} {xs : List α}
    (hxs : ∀ x ∈ xs, Reads read write x)
    (hbegins : ∀ x ∈ xs, ∀ rest, begins (write x ++ rest) = true)
    (hrest : NoPoint rest) (hstop : skip ", " rest = none) (hend : begins rest = false) :
    readSeparated read (separated (xs.map write) ++ rest) = some (xs, rest) := by
  rw [readSeparated]
  cases xs with
  | nil => simp [separated, hend]
  | cons x more =>
    have hmore := readMany_flatMap ", " rfl (by decide)
      (fun y hy => hxs y (List.mem_cons_of_mem x hy)) hrest hstop
    have hx := hxs x List.mem_cons_self
      (noPoint_flatMap ", " rfl (by decide) write more hrest)
    simp only [List.map_cons, separated, List.flatMap_map, List.append_assoc,
      hbegins x List.mem_cons_self, if_true]
    simp [hx, hmore]

-- ════════════════════════════════════════════════════════════════════════
-- Expressions
-- ════════════════════════════════════════════════════════════════════════

/-- Read a table name. -/
def readTable : Reader TableName
  | .name s :: .char '.' :: .name t :: rest => some (⟨some s, t⟩, rest)
  | .name t :: rest => some (⟨none, t⟩, rest)
  | _ => none

/-- Read a column reference. -/
def readColumn : Reader ColumnRef
  | .name s :: .char '.' :: .name t :: .char '.' :: .name c :: rest => some (⟨⟨some s, t⟩, c⟩, rest)
  | .name t :: .char '.' :: .name c :: rest => some (⟨⟨none, t⟩, c⟩, rest)
  | _ => none

/-- What stands after the first operand of a compound expression. -/
inductive Connective
  | binary (b : Binary)
  | isIn
  | nullTest (test : NullTest)

/-- How a connective is written. -/
def Connective.text : Connective → String
  | .binary b => b.text
  | .isIn => " IN "
  | .nullTest test => test.text

def Connective.all : List Connective :=
  [.binary .and, .binary .or, .binary (.compare .equals), .binary (.compare .notEquals),
   .binary (.compare .greaterThan), .binary (.compare .greaterOrEqual),
   .binary (.compare .lessThan), .binary (.compare .lessOrEqual), .binary (.compare .like), .isIn,
   .nullTest .isNull, .nullTest .isNotNull]

/-- Read a connective. -/
def readConnective : Reader Connective := fun tokens =>
  Connective.all.findSome? fun c => (skip c.text tokens).map (c, ·)

/-- Read what stands after the first operand and the connective of an expression. -/
def readOperands (read : Reader Expr) (first : Expr) : Connective → Reader Expr
  | .binary b, tokens => do
    let (second, rest) ← read tokens
    (skip ")" rest).map (b.apply first second, ·)
  | .isIn, tokens => do
    let rest ← skip "(" tokens
    let (items, rest) ← readSeparated read rest
    (skip "))" rest).map (.isIn first items, ·)
  | .nullTest test, tokens => (skip ")" tokens).map (.nullTest test first, ·)

/-- Read an expression that is nested up to a depth. -/
def readNested : Nat → Reader Expr
  | 0, _ => none
  | depth + 1, tokens =>
    match tokens with
    | .marker p :: rest => some (.param p, rest)
    | .name _ :: _ => (readColumn tokens).map fun (c, rest) => (.column c, rest)
    | .char '(' :: rest => do
      let (first, rest) ← readNested depth rest
      let (c, rest) ← readConnective rest
      readOperands (readNested depth) first c rest
    | tokens => (skip "COUNT(*)" tokens).map (.countRows, ·)

/-- Read an expression. -/
def readExpr : Reader Expr := fun tokens =>
  readNested tokens.length tokens

theorem reads_table {d : Dialect} {t : TableName} : Reads readTable (tableTokens d) t := by
  intro rest hrest
  obtain ⟨schema, name⟩ := t
  cases schema with
  | none =>
    show readTable (.name name :: rest) = _
    unfold readTable
    split
    · rename_i heq
      cases heq
      exact absurd rfl hrest
    · rename_i heq
      cases heq
      rfl
    · rename_i hne
      exact absurd rfl (hne name rest)
  | some schema => rfl

theorem reads_column {d : Dialect} {c : ColumnRef} : Reads readColumn (columnTokens d) c := by
  intro rest hrest
  obtain ⟨⟨schema, table⟩, name⟩ := c
  cases schema with
  | none =>
    show readColumn (.name table :: .char '.' :: .name name :: rest) = _
    unfold readColumn
    split
    · rename_i heq
      cases heq
      exact absurd rfl hrest
    · rename_i heq
      cases heq
      rfl
    · rename_i hne
      exact absurd rfl (hne table name rest)
  | some schema => rfl

theorem readConnective_text {c : Connective} :
    readConnective (fixed c.text ++ rest) = some (c, rest) := by
  cases c with
  | binary b =>
    cases b with
    | and | or => rfl
    | compare op => cases op <;> rfl
  | isIn => rfl
  | nullTest test => cases test <;> rfl

/-- A table name begins with a name. -/
theorem begins_table {d : Dialect} {t : TableName} :
    ∃ s more, tableTokens d t = .name s :: more := by
  obtain ⟨schema, name⟩ := t
  cases schema with
  | none => exact ⟨name, [], rfl⟩
  | some schema => exact ⟨schema, _, rfl⟩

/-- An expression begins with a name, with a marker or with fixed text of its own. -/
theorem begins_expr (d : Dialect) (e : Expr) (rest : List (Token Param)) :
    begins (e.tokens d ++ rest) = true := by
  cases e using Expr.induct with
  | binary b l r => rw [Expr.tokens_binary]; rfl
  | isIn e items => rw [Expr.tokens_isIn]; rfl
  | nullTest test e => rw [Expr.tokens_nullTest]; rfl
  | column c =>
    obtain ⟨s, more, htable⟩ := begins_table (d := d) (t := c.table)
    rw [Expr.tokens_column, columnTokens, htable]
    rfl
  | param p => rfl
  | countRows => rw [Expr.tokens_countRows]; rfl

/-- A compound expression is read up to what stands after its connective. -/
theorem readNested_compound {d : Dialect} {depth : Nat} {first : Expr} (c : Connective)
    (hfirst : Reads (readNested depth) (Expr.tokens d) first) :
    readNested (depth + 1) (fixed "(" ++ (first.tokens d ++ (fixed c.text ++ rest))) =
      readOperands (readNested depth) first c rest := by
  have hpoint : NoPoint (fixed c.text ++ rest) := by
    cases c with
    | binary b =>
      cases b with
      | and | or => simp [NoPoint, fixed, Connective.text, Binary.text]
      | compare op => cases op <;> simp [NoPoint, fixed, Connective.text, Binary.text, compareText]
    | isIn => simp [NoPoint, fixed, Connective.text]
    | nullTest test => cases test <;> simp [NoPoint, fixed, Connective.text, NullTest.text]
  show (do
    let (first, rest) ← readNested depth (first.tokens d ++ (fixed c.text ++ rest))
    let (c, rest) ← readConnective rest
    readOperands (readNested depth) first c rest) = _
  simp [hfirst hpoint, readConnective_text]

/-- Every group is as long as the groups together at most. -/
theorem length_le_separated {groups : List (List (Token Param))} {group : List (Token Param)}
    (h : group ∈ groups) : group.length ≤ (separated groups).length := by
  cases groups with
  | nil => cases h
  | cons first more =>
    rw [separated, List.length_append]
    obtain rfl | h := List.mem_cons.1 h
    · exact Nat.le_add_right _ _
    · have hsub : (fixed ", " ++ group).Sublist (more.flatMap (fixed ", " ++ ·)) :=
        List.sublist_flatten_of_mem (List.mem_map_of_mem h)
      have hlength := hsub.length_le
      rw [List.length_append] at hlength
      omega

/-- An expression has tokens, so reading it needs some depth. -/
theorem exists_succ_of_length_le {d : Dialect} {e : Expr} {depth : Nat}
    (hdepth : (e.tokens d).length ≤ depth) : ∃ k, depth = k + 1 := by
  cases depth with
  | zero =>
    have hbegins := begins_expr d e []
    rw [List.length_eq_zero_iff.1 (Nat.le_zero.1 hdepth)] at hbegins
    cases hbegins
  | succ k => exact ⟨k, rfl⟩

/-- An expression is read back if it is not nested too deep. -/
theorem reads_nested {d : Dialect} {e : Expr} {depth : Nat} (hdepth : (e.tokens d).length ≤ depth) :
    Reads (readNested depth) (Expr.tokens d) e := by
  have hone : (fixed "(" : List (Token Param)).length = 1 := rfl
  -- Every operand is shorter than its expression by the opening parenthesis.
  induction e using Expr.induct generalizing depth with
  | binary b l r ihl ihr =>
    obtain ⟨depth, rfl⟩ := exists_succ_of_length_le hdepth
    simp only [Expr.tokens_binary, List.length_append, hone] at hdepth
    intro rest hrest
    rw [Expr.tokens_binary]
    simp only [List.append_assoc]
    refine (readNested_compound (.binary b) (ihl (by omega))).trans ?_
    have hclose : NoPoint (fixed ")" ++ rest) := by simp [NoPoint, fixed]
    have hr : Reads (readNested depth) (Expr.tokens d) r := ihr (by omega)
    rw [readOperands, hr hclose]
    simp
  | isIn e items ih ihitems =>
    obtain ⟨depth, rfl⟩ := exists_succ_of_length_le hdepth
    simp only [Expr.tokens_isIn, List.length_append, hone] at hdepth
    have hitems : ∀ x ∈ items, Reads (readNested depth) (Expr.tokens d) x := by
      intro x hx
      have hlength := length_le_separated (List.mem_map_of_mem (f := Expr.tokens d) hx)
      exact ihitems x hx (by omega)
    intro rest hrest
    rw [Expr.tokens_isIn]
    simp only [List.append_assoc]
    refine (readNested_compound .isIn (ih (by omega))).trans ?_
    have hpoint : NoPoint (fixed "))" ++ rest) := by simp [NoPoint, fixed]
    have hread := readSeparated_separated hitems (fun x _ => begins_expr d x) hpoint rfl rfl
    have hclose : (fixed ")" ++ (fixed ")" ++ rest) : List (Token Param)) = fixed "))" ++ rest :=
      rfl
    rw [hclose, readOperands]
    simp [hread]
  | nullTest test e ih =>
    obtain ⟨depth, rfl⟩ := exists_succ_of_length_le hdepth
    simp only [Expr.tokens_nullTest, List.length_append, hone] at hdepth
    intro rest hrest
    rw [Expr.tokens_nullTest]
    simp only [List.append_assoc]
    refine (readNested_compound (.nullTest test) (ih (by omega))).trans ?_
    rw [readOperands]
    simp
  | column c =>
    obtain ⟨depth, rfl⟩ := exists_succ_of_length_le hdepth
    obtain ⟨s, more, htable⟩ := begins_table (d := d) (t := c.table)
    intro rest hrest
    have hread := reads_column (d := d) (c := c) hrest
    rw [Expr.tokens_column]
    rw [columnTokens, htable] at hread ⊢
    simp only [List.cons_append] at hread ⊢
    rw [readNested, hread]
    rfl
  | param p =>
    obtain ⟨depth, rfl⟩ := exists_succ_of_length_le hdepth
    intro rest hrest
    rfl
  | countRows =>
    obtain ⟨depth, rfl⟩ := exists_succ_of_length_le hdepth
    intro rest hrest
    rw [Expr.tokens_countRows]
    rfl

/-- Every expression is read back. -/
theorem reads_expr {d : Dialect} {e : Expr} : Reads readExpr (Expr.tokens d) e := by
  intro rest hrest
  refine reads_nested ?_ hrest
  rw [List.length_append]
  exact Nat.le_add_right _ _

end EntityQuery.Sql
