import EntityQuery.Proofs.Rendering.Reading

/-!
# Reading statements back

A rendered statement can be read back: its text and its parameters determine the
tree it was rendered from, clause by clause. No name can break out of its quotes,
and no two groupings, operators, joins or windows are written alike.

## Main definitions

- `Token.bound` — tokens with parameters bound to their markers
- `Sql.readSelect` — read a statement from its tokens
- `Sql.Statement.read` — read a statement from its text and its parameters

## Main statements

- `Sql.readSelect_tokens` — the tokens of a statement are read back
- `Sql.Select.render_eq_iff` — statements that are rendered alike are the same
-/

namespace EntityQuery

/-- Tokens with something bound to each of their markers. -/
def Token.bound {μ ν : Type} : List (Token μ) → List ν → List (Token ν)
  | [], _ => []
  | .char c :: rest, marks => .char c :: bound rest marks
  | .name s :: rest, marks => .name s :: bound rest marks
  | .marker _ :: _, [] => []
  | .marker _ :: rest, mark :: marks => .marker mark :: bound rest marks

/-- Binding what the markers knew before they were numbered. -/
theorem Token.bound_numbered {μ : Type} {d : Dialect} {index : Nat} {tokens : List (Token μ)} :
    bound (numbered d index tokens) (marks tokens) = tokens := by
  induction tokens generalizing index with
  | nil => rfl
  | cons t rest ih => cases t <;> simp [numbered, marks, bound, ih]

namespace Sql

open Token

variable {d : Dialect} {rest : List (Token Param)}

-- ════════════════════════════════════════════════════════════════════════
-- Clauses
-- ════════════════════════════════════════════════════════════════════════

/-- Read the name a selected column is returned under. -/
def readLabel : Reader String
  | .name s :: rest => some (s, rest)
  | _ => none

/-- Read a selected column. -/
def readOutput : Reader Output := fun tokens => do
  let (expr, rest) ← readExpr tokens
  let rest ← skip " AS " rest
  let (label, rest) ← readLabel rest
  some (⟨label, expr⟩, rest)

/-- Read a join after the words that open it. -/
def readJoin : Reader Join := fun tokens => do
  let (table, rest) ← readTable tokens
  let rest ← skip " ON " rest
  let (on, rest) ← readExpr rest
  some (⟨table, on⟩, rest)

/-- Read the condition, if there is one. -/
def readCondition : Reader (Option Expr) := fun tokens =>
  match skip " WHERE " tokens with
  | none => some (none, tokens)
  | some rest => (readExpr rest).map fun (e, rest) => (some e, rest)

/-- Read a direction. -/
def readDirection : Reader Direction := fun tokens =>
  match skip " ASC" tokens with
  | some rest => some (.ascending, rest)
  | none => (skip " DESC" tokens).map (.descending, ·)

/-- Read a key of an ordering. -/
def readKey : Reader OrderKey := fun tokens => do
  let (target, rest) ← readExpr tokens
  let (direction, rest) ← readDirection rest
  some (⟨target, direction⟩, rest)

/-- Read the ordering, if there is one. An ordering by nothing in particular belongs
  to the window. -/
def readOrdering : Reader (List OrderKey) := fun tokens =>
  match skip " ORDER BY " tokens with
  | none => some ([], tokens)
  | some rest =>
    if (skip "(SELECT NULL)" rest).isSome then some ([], tokens) else readSeparated readKey rest

/-- The digits that tokens begin with. -/
def leadingDigits : List (Token Param) → List Char
  | .char c :: rest => if c.isDigit then c :: leadingDigits rest else []
  | _ => []

/-- Read a number. -/
def readNumber : Reader Nat := fun tokens =>
  some (Nat.ofDigitChars 10 (leadingDigits tokens) 0, tokens.drop (leadingDigits tokens).length)

/-- Read two numbers and the texts around them. -/
def readNumbers (first second last : String) (tokens : List (Token Param)) :
    Option (Nat × Nat) := do
  let rest ← skip first tokens
  let (n, rest) ← readNumber rest
  let rest ← skip second rest
  let (m, rest) ← readNumber rest
  (skip last rest).map fun _ => (n, m)

/-- Read the window, if there is one. -/
def readWindow (d : Dialect) (tokens : List (Token Param)) : Option (Option Window) :=
  if tokens.isEmpty then some none
  else match d with
    | .postgresql | .sqlite =>
      (readNumbers " LIMIT " " OFFSET " "" tokens).map fun (n, m) => some ⟨m, n⟩
    | .mysql => (readNumbers " LIMIT " ", " "" tokens).map fun (n, m) => some ⟨n, m⟩
    | .sqlserver =>
      (readNumbers " OFFSET " " ROWS FETCH NEXT " " ROWS ONLY"
        ((skip " ORDER BY (SELECT NULL)" tokens).getD tokens)).map fun (n, m) => some ⟨n, m⟩

/-- Read a statement. -/
def readSelect (d : Dialect) (tokens : List (Token Param)) : Option Select := do
  let rest ← skip "SELECT " tokens
  let (outputs, rest) ← readSeparated readOutput rest
  let rest ← skip " FROM " rest
  let (source, rest) ← readTable rest
  let (joins, rest) ← readMany " LEFT OUTER JOIN " readJoin rest
  let (condition, rest) ← readCondition rest
  let (ordering, rest) ← readOrdering rest
  let window ← readWindow d rest
  some { outputs, source, joins, condition, ordering, window }

-- ════════════════════════════════════════════════════════════════════════
-- Reading clauses back
-- ════════════════════════════════════════════════════════════════════════

theorem reads_output {o : Output} : Reads readOutput (Output.tokens d) o := by
  intro rest hrest
  have hpoint : NoPoint (fixed " AS " ++ (.name o.name :: rest)) := by simp [NoPoint, fixed]
  have hexpr := reads_expr (d := d) (e := o.expr) hpoint
  simp [readOutput, Output.tokens, hexpr, readLabel]

theorem reads_join {j : Join} :
    Reads readJoin (fun j => tableTokens d j.table ++ (fixed " ON " ++ j.on.tokens d)) j := by
  intro rest hrest
  have hpoint : NoPoint (fixed " ON " ++ (j.on.tokens d ++ rest)) := by simp [NoPoint, fixed]
  have htable := reads_table (d := d) (t := j.table) hpoint
  simp [readJoin, htable, reads_expr hrest]

theorem reads_key {k : OrderKey} : Reads readKey (OrderKey.tokens d) k := by
  intro rest hrest
  have hdirection : readDirection (fixed (directionText k.direction) ++ rest) =
      some (k.direction, rest) := by
    cases k.direction <;> rfl
  have hpoint : NoPoint (fixed (directionText k.direction) ++ rest) := by
    cases k.direction <;> simp [NoPoint, fixed, directionText]
  simp [readKey, OrderKey.tokens, reads_expr hpoint, hdirection]

/-- The tokens are nothing, or they begin with one of some texts. -/
def Starts (texts : List String) (tokens : List (Token Param)) : Prop :=
  tokens = [] ∨ ∃ s ∈ texts, ∃ more, tokens = fixed s ++ more

/-- What holds of nothing and of everything that begins with one of some texts. -/
@[elab_as_elim]
theorem Starts.elim {texts : List String} {tokens : List (Token Param)}
    {P : List (Token Param) → Prop} (h : Starts texts tokens) (hnil : P [])
    (htexts : ∀ s ∈ texts, ∀ more, P (fixed s ++ more)) : P tokens := by
  obtain rfl | ⟨s, hs, more, rfl⟩ := h
  · exact hnil
  · exact htexts s hs more

/-- What begins with a space does not begin with a point. -/
theorem Starts.noPoint {texts : List String} {tokens : List (Token Param)} (h : Starts texts tokens)
    (htexts : ∀ s ∈ texts, ∃ chars, s.toList = ' ' :: chars) : NoPoint tokens := by
  refine h.elim (by simp [NoPoint]) fun s hs more => ?_
  obtain ⟨chars, hchars⟩ := htexts s hs
  simp [NoPoint, fixed, hchars]

theorem starts_window (d : Dialect) (ordered : Bool) (w : Option Window) :
    Starts [" LIMIT ", " OFFSET ", " ORDER BY (SELECT NULL)"] (windowTokens d ordered w) := by
  cases w with
  | none => exact .inl rfl
  | some w =>
    refine .inr ?_
    cases d with
    | postgresql | mysql | sqlite =>
      refine ⟨" LIMIT ", by simp, ?_⟩
      simp only [windowTokens, Dialect.paging, fixed_append, List.append_assoc]
      exact ⟨_, rfl⟩
    | sqlserver =>
      cases ordered with
      | false =>
        refine ⟨" ORDER BY (SELECT NULL)", by simp, ?_⟩
        simp only [windowTokens, Dialect.paging, fixed_append, List.append_assoc]
        exact ⟨_, rfl⟩
      | true =>
        refine ⟨" OFFSET ", by simp, ?_⟩
        simp only [windowTokens, Dialect.paging, fixed_append, List.append_assoc]
        exact ⟨_, rfl⟩

theorem starts_ordering (d : Dialect) (ordering : List OrderKey)
    (hrest : Starts [" LIMIT ", " OFFSET ", " ORDER BY (SELECT NULL)"] rest) :
    Starts [" LIMIT ", " OFFSET ", " ORDER BY "] (orderingTokens d ordering ++ rest) := by
  cases ordering with
  | nil =>
    refine hrest.elim (.inl rfl) ?_
    simp only [List.forall_mem_cons]
    refine ⟨fun more => .inr ⟨" LIMIT ", by simp, more, rfl⟩,
      fun more => .inr ⟨" OFFSET ", by simp, more, rfl⟩,
      fun more => .inr ⟨" ORDER BY ", by simp, fixed "(SELECT NULL)" ++ more,
        by simp [fixed, orderingTokens]⟩,
      by simp⟩
  | cons k more =>
    refine .inr ⟨" ORDER BY ", by simp, ?_⟩
    rw [orderingTokens, List.append_assoc]
    exact ⟨_, rfl⟩

theorem starts_condition (d : Dialect) (condition : Option Expr)
    (hrest : Starts [" LIMIT ", " OFFSET ", " ORDER BY "] rest) :
    Starts [" WHERE ", " LIMIT ", " OFFSET ", " ORDER BY "]
      (conditionTokens d condition ++ rest) := by
  cases condition with
  | none =>
    refine hrest.imp id ?_
    rintro ⟨s, hs, hmore⟩
    exact ⟨s, List.mem_cons_of_mem _ hs, hmore⟩
  | some e =>
    refine .inr ⟨" WHERE ", by simp, ?_⟩
    rw [conditionTokens, List.append_assoc]
    exact ⟨_, rfl⟩

theorem readCondition_tokens (condition : Option Expr)
    (hrest : Starts [" LIMIT ", " OFFSET ", " ORDER BY "] rest) :
    readCondition (conditionTokens d condition ++ rest) = some (condition, rest) := by
  cases condition with
  | none =>
    have hstop : skip " WHERE " rest = none := by
      refine hrest.elim (by simp [skip, skipChars]) ?_
      simp [skip, skipChars, fixed]
    simp [readCondition, conditionTokens, hstop]
  | some e =>
    have hpoint : NoPoint rest := hrest.noPoint (by simp)
    simp [readCondition, conditionTokens, reads_expr hpoint]

/-- An expression is not ordered by as nothing in particular is. -/
theorem skip_selectNull {e : Expr} : skip "(SELECT NULL)" (e.tokens d ++ rest) = none := by
  -- A compound expression goes on with its first operand, which is no keyword.
  have hoperand (first : Expr) (more : List (Token Param)) :
      skip "(SELECT NULL)" (fixed "(" ++ (first.tokens d ++ more)) = none := by
    have hbegins := begins_expr d first more
    have hopen : skip "(SELECT NULL)" (fixed "(" ++ (first.tokens d ++ more)) =
        skip "SELECT NULL)" (first.tokens d ++ more) := by simp [skip, skipChars, fixed]
    rw [hopen]
    cases htokens : first.tokens d ++ more with
    | nil => simp [skip, skipChars]
    | cons t rest =>
      rw [htokens] at hbegins
      cases t with
      | char c =>
        have hc : 'S' ≠ c := by
          rintro rfl
          cases hbegins
        simp [skip, skipChars, hc]
      | name s => simp [skip, skipChars]
      | marker p => simp [skip, skipChars]
  cases e using Expr.induct with
  | binary b l r =>
    rw [Expr.tokens_binary, List.append_assoc, List.append_assoc]
    exact hoperand l _
  | isIn e items =>
    rw [Expr.tokens_isIn, List.append_assoc, List.append_assoc]
    exact hoperand e _
  | nullTest test e =>
    rw [Expr.tokens_nullTest, List.append_assoc, List.append_assoc]
    exact hoperand e _
  | column c =>
    obtain ⟨s, more, htable⟩ := begins_table (d := d) (t := c.table)
    rw [Expr.tokens_column, columnTokens, htable]
    rfl
  | param p => rfl
  | countRows => rw [Expr.tokens_countRows]; rfl

/-- The ordering is read back. -/
theorem readOrdering_tokens (ordering : List OrderKey)
    (hrest : Starts [" LIMIT ", " OFFSET ", " ORDER BY (SELECT NULL)"] rest) :
    readOrdering (orderingTokens d ordering ++ rest) = some (ordering, rest) := by
  cases ordering with
  | nil =>
    refine hrest.elim (by simp [readOrdering, skip, skipChars, orderingTokens]) ?_
    simp [readOrdering, skip, skipChars, orderingTokens, fixed]
  | cons k more =>
    have hpoint : NoPoint rest := hrest.noPoint (by simp)
    have hstop : skip ", " rest = none ∧ begins rest = false := by
      refine hrest.elim ⟨rfl, rfl⟩ ?_
      simp [skip, skipChars, fixed, begins]
    have hbegins : ∀ k' ∈ k :: more, ∀ rest, begins (k'.tokens d ++ rest) = true := by
      intro k' _ rest
      rw [OrderKey.tokens, List.append_assoc]
      exact begins_expr d k'.target _
    have hread := readSeparated_separated (fun _ _ => reads_key) hbegins hpoint hstop.1 hstop.2
    have hfirst : skip "(SELECT NULL)"
        (separated ((k :: more).map (OrderKey.tokens d)) ++ rest) = none := by
      rw [List.map_cons, separated, OrderKey.tokens, List.append_assoc, List.append_assoc]
      exact skip_selectNull
    simp only [readOrdering, orderingTokens, List.append_assoc, skip_fixed, hfirst, hread]
    rfl

/-- Digits at the beginning of tokens. -/
theorem leadingDigits_repr {n : Nat} (hrest : leadingDigits rest = []) :
    leadingDigits (fixed (Nat.repr n) ++ rest) = Nat.toDigits 10 n := by
  have hdigits : ∀ c ∈ Nat.toDigits 10 n, c.isDigit = true := fun c hc =>
    Nat.isDigit_of_mem_toDigits (by decide) (by decide) hc
  rw [fixed, Nat.toList_repr]
  generalize Nat.toDigits 10 n = digits at hdigits ⊢
  induction digits with
  | nil => exact hrest
  | cons c chars ih =>
    have hc : c.isDigit = true := hdigits c List.mem_cons_self
    have hchars := ih fun c' hc' => hdigits c' (List.mem_cons_of_mem c hc')
    rw [List.map_cons, List.cons_append, leadingDigits, if_pos hc, hchars]

/-- Numbers are read back in front of everything but a digit. -/
theorem readNumber_repr {n : Nat} (hrest : leadingDigits rest = []) :
    readNumber (fixed (Nat.repr n) ++ rest) = some (n, rest) := by
  have hlength : (fixed (Nat.repr n) : List (Token Param)).length = (Nat.toDigits 10 n).length := by
    rw [fixed, List.length_map, Nat.toList_repr]
  rw [readNumber, leadingDigits_repr hrest, Nat.ofDigitChars_ten_toDigits, ← hlength,
    List.drop_left]

/-- Two numbers and the texts around them are read back. -/
theorem readNumbers_repr (first second last : String) (n m : Nat)
    (hsecond : ∀ rest, leadingDigits (fixed second ++ rest) = [])
    (hlast : leadingDigits (fixed last) = []) :
    readNumbers first second last (fixed first ++ (fixed (Nat.repr n) ++ (fixed second ++
      (fixed (Nat.repr m) ++ fixed last)))) = some (n, m) := by
  have hskip : skip last (fixed last) = some [] := by
    rw [← List.append_nil (fixed last)]
    exact skip_fixed
  simp [readNumbers, readNumber_repr (hsecond _), readNumber_repr hlast, hskip]

/-- The window is read back. -/
theorem readWindow_tokens {ordered : Bool} {w : Option Window} :
    readWindow d (windowTokens d ordered w) = some w := by
  cases w with
  | none => rfl
  | some w =>
    obtain ⟨offset, limit⟩ := w
    have hempty : (fixed "" : List (Token Param)) = [] := rfl
    cases d with
    | postgresql | sqlite =>
      have hread := readNumbers_repr " LIMIT " " OFFSET " "" limit offset
        (by simp [fixed, leadingDigits]) (by simp [fixed, leadingDigits])
      rw [hempty, List.append_nil] at hread
      simp only [windowTokens, Dialect.paging, fixed_append, List.append_assoc, readWindow, hread]
      simp [fixed]
    | mysql =>
      have hread := readNumbers_repr " LIMIT " ", " "" offset limit
        (by simp [fixed, leadingDigits]) (by simp [fixed, leadingDigits])
      rw [hempty, List.append_nil] at hread
      simp only [windowTokens, Dialect.paging, fixed_append, List.append_assoc, readWindow, hread]
      simp [fixed]
    | sqlserver =>
      have hread := readNumbers_repr " OFFSET " " ROWS FETCH NEXT " " ROWS ONLY" offset limit
        (by simp [fixed, leadingDigits]) (by simp [fixed, leadingDigits])
      simp only [windowTokens, Dialect.paging, fixed_append, List.append_assoc, readWindow]
      cases ordered with
      | false =>
        simp only [Bool.false_eq_true, if_false, skip_fixed, Option.getD_some, hread]
        simp [fixed]
      | true =>
        have hordered (more : List (Token Param)) :
            skip " ORDER BY (SELECT NULL)" (fixed " OFFSET " ++ more) = none := by
          simp [skip, skipChars, fixed]
        simp only [if_true, hempty, List.nil_append, hordered, Option.getD_none, hread]
        simp [fixed]

/-- The tokens of the clauses after the joins. -/
def clauseTokens (d : Dialect) (s : Select) : List (Token Param) :=
  conditionTokens d s.condition ++ (orderingTokens d s.ordering ++
    windowTokens d (!s.ordering.isEmpty) s.window)

/-- The joins are read back in front of the further clauses. -/
theorem readMany_joins {s : Select} :
    NoPoint (s.joins.flatMap (Join.tokens d) ++ clauseTokens d s) ∧
      readMany " LEFT OUTER JOIN " readJoin (s.joins.flatMap (Join.tokens d) ++ clauseTokens d s) =
        some (s.joins, clauseTokens d s) := by
  have hclauses : Starts [" WHERE ", " LIMIT ", " OFFSET ", " ORDER BY "] (clauseTokens d s) :=
    starts_condition d s.condition (starts_ordering d s.ordering (starts_window d _ s.window))
  have hpoint : NoPoint (clauseTokens d s) := hclauses.noPoint (by simp)
  have hstop : skip " LEFT OUTER JOIN " (clauseTokens d s) = none := by
    refine hclauses.elim (by simp [skip, skipChars]) ?_
    simp [skip, skipChars, fixed]
  exact ⟨noPoint_flatMap " LEFT OUTER JOIN " rfl (by decide) _ _ hpoint,
    readMany_flatMap _ rfl (by decide) (fun j _ => reads_join) hpoint hstop⟩

/-- The tokens of a statement are read back. -/
theorem readSelect_tokens {s : Select} : readSelect d (s.tokens d) = some s := by
  obtain ⟨hpoint, hjoins⟩ := readMany_joins (d := d) (s := s)
  have hsource := reads_table (d := d) (t := s.source) hpoint
  have hfrom : NoPoint (fixed " FROM " ++ (tableTokens d s.source ++
      (s.joins.flatMap (Join.tokens d) ++ clauseTokens d s))) := by simp [NoPoint, fixed]
  have hbegins : ∀ o ∈ s.outputs, ∀ rest, begins (o.tokens d ++ rest) = true := by
    intro o _ rest
    rw [Output.tokens, List.append_assoc]
    exact begins_expr d o.expr _
  have houtputs := readSeparated_separated (fun _ _ => reads_output) hbegins hfrom rfl rfl
  -- Each clause is read in front of those after it, so the last ones come first here.
  have hwindow := starts_window d (!s.ordering.isEmpty) s.window
  have hcondition := readCondition_tokens (d := d) s.condition
    (starts_ordering d s.ordering hwindow)
  have hordering := readOrdering_tokens (d := d) s.ordering hwindow
  have htokens : s.tokens d = fixed "SELECT " ++ (separated (s.outputs.map (Output.tokens d)) ++
      (fixed " FROM " ++ (tableTokens d s.source ++ (s.joins.flatMap (Join.tokens d) ++
        clauseTokens d s)))) := Select.tokens_eq
  rw [htokens, readSelect]
  simp only [Option.bind_eq_bind, skip_fixed, Option.bind_some, houtputs, hsource, hjoins]
  rw [clauseTokens, hcondition]
  simp only [Option.bind_some, hordering, readWindow_tokens]

/-- Read a statement from its text and its parameters. -/
def Statement.read (d : Dialect) (s : Statement) : Option Select := do
  let tokens ← d.tokens s.text.toList
  readSelect d (bound tokens s.params)

/-- A rendered statement is read back. -/
theorem Statement.read_render {s : Select} : (s.render d).read d = some s := by
  rw [read, Select.tokens_render, Select.params_render]
  simp only [Option.bind_eq_bind, Option.bind_some, bound_numbered, readSelect_tokens]

/-- Rendering is uniquely readable. In every dialect, statements that are rendered
  to the same text with the same parameters are the same tree, whatever names they
  contain. -/
theorem Select.render_eq_iff (d : Dialect) (s t : Select) : s.render d = t.render d ↔ s = t := by
  constructor
  · intro h
    have hread : (s.render d).read d = (t.render d).read d := congrArg (Statement.read d) h
    rw [Statement.read_render, Statement.read_render] at hread
    exact Option.some.inj hread
  · rintro rfl
    rfl

end Sql

end EntityQuery
