import Mathlib.Data.List.Count
import Mathlib.Data.List.Infix
import EntityQuery.Proofs.Rendering.Markers
import EntityQuery.Proofs.Rendering.Readability

/-!
# Dialects differ in spelling only

The statements of two engines for one tree have the same parameters and, once names
are unquoted and markers are numbered by occurrence, the same tokens up to the clause
that selects the window. Each engine reads the same window from its own clause.

SQL Server selects a window only after an ordering, so there a statement with a
window always has one `ORDER BY` and never two.

## Main definitions

- `Dialect.lex` — the tokens of a text, markers numbered by occurrence
- `Dialect.window?` — the window that an engine reads from a clause
- `Dialect.Spells` — a statement is spelled as certain tokens and a window
- `Token.occurrences` — how often a text occurs outside quoted names

## Main statements

- `Sql.Select.spells` — what a dialect makes of a statement
- `Sql.Select.spelling_only` — two dialects compared
-/

namespace EntityQuery

open Sql

-- ════════════════════════════════════════════════════════════════════════
-- Numbering markers by occurrence
-- ════════════════════════════════════════════════════════════════════════

namespace Token

variable {μ : Type}

/-- Tokens with their markers numbered by occurrence, from a number on. -/
def counted : Nat → List (Token μ) → List (Token Nat)
  | _, [] => []
  | index, .char c :: rest => .char c :: counted index rest
  | index, .name s :: rest => .name s :: counted index rest
  | index, .marker _ :: rest => .marker index :: counted (index + 1) rest

theorem counted_append {index : Nat} {first second : List (Token μ)} :
    counted index (first ++ second) =
      counted index first ++ counted (index + (marks first).length) second := by
  induction first generalizing index with
  | nil => rfl
  | cons t rest ih =>
    cases t with
    | char c => simp [counted, marks, ih]
    | name s => simp [counted, marks, ih]
    | marker m => simp [counted, marks, ih, Nat.add_assoc, Nat.add_comm 1]

@[simp]
theorem counted_fixed {index : Nat} {s : String} :
    counted index (fixed s : List (Token μ)) = fixed s := by
  rw [fixed, fixed]
  induction s.toList with
  | nil => rfl
  | cons c rest ih => rw [List.map_cons, counted, ih, List.map_cons]

/-- Numbering by occurrence forgets the texts of markers. -/
theorem counted_numbered {d : Dialect} {index start : Nat} {tokens : List (Token μ)} :
    counted index (numbered d start tokens) = counted index tokens := by
  induction tokens generalizing index start with
  | nil => rfl
  | cons t rest ih => cases t <;> simp [numbered, counted, ih]

theorem char_mem_counted {c : Char} {index : Nat} {tokens : List (Token μ)} :
    .char c ∈ counted index tokens ↔ .char c ∈ tokens := by
  induction tokens generalizing index with
  | nil => simp [counted]
  | cons t rest ih => cases t <;> simp [counted, ih]

/-- How often a text occurs among tokens, quoted names left aside. -/
def occurrences [DecidableEq μ] (s : String) (tokens : List (Token μ)) : Nat :=
  tokens.tails.countP ((fixed s).isPrefixOf ·)

theorem char_mem_fixed {c : Char} {s : String} :
    .char c ∈ (fixed s : List (Token μ)) ↔ c ∈ s.toList := by
  simp [fixed]

theorem char_not_mem_separated {c : Char} {groups : List (List (Token μ))}
    (hc : c ∉ ", ".toList) (h : ∀ group ∈ groups, .char c ∉ group) :
    .char c ∉ separated groups := by
  cases groups with
  | nil => simp [separated]
  | cons group rest =>
    obtain ⟨hgroup, hrest⟩ := List.forall_mem_cons.1 h
    intro hmem
    rcases List.mem_append.1 hmem with hmem | hmem
    · exact hgroup hmem
    · obtain ⟨other, hother, hmem⟩ := List.mem_flatMap.1 hmem
      rcases List.mem_append.1 hmem with hmem | hmem
      · exact hc (char_mem_fixed.1 hmem)
      · exact hrest other hother hmem

/-- A text occurs at most as often as any one of its characters. -/
theorem occurrences_le_count [DecidableEq μ] {s : String} {c : Char} (hc : c ∈ s.toList)
    (tokens : List (Token μ)) : occurrences s tokens ≤ tokens.count (.char c) := by
  obtain ⟨k, hk, rfl⟩ := List.getElem_of_mem hc
  -- Each occurrence has the character at the same distance, so distinct ones have distinct
  -- characters; the induction counts them from that distance on.
  have hdrop : occurrences s tokens ≤ (tokens.drop k).count (.char s.toList[k]) := by
    induction tokens with
    | nil =>
      have hempty : fixed s ≠ ([] : List (Token μ)) := by
        intro h
        rw [fixed, List.map_eq_nil_iff] at h
        simp [h] at hk
      simp [occurrences, hempty]
    | cons t rest ih =>
      have htails : occurrences s (t :: rest) = occurrences s rest +
          if (fixed s).isPrefixOf (t :: rest) then 1 else 0 := by
        rw [occurrences, List.tails_cons, List.countP_cons, occurrences]
      by_cases hprefix : (fixed s).isPrefixOf (t :: rest) = true
      · have hlength : (fixed s : List (Token μ)).length = s.toList.length := List.length_map _
        have hle : k < (t :: rest).length :=
          Nat.lt_of_lt_of_le (hlength ▸ hk) (List.isPrefixOf_iff_prefix.1 hprefix).length_le
        have hchar : (t :: rest)[k] = .char s.toList[k] := by
          rw [← (List.isPrefixOf_iff_prefix.1 hprefix).getElem (hlength ▸ hk)]
          simp [fixed]
        rw [htails, if_pos hprefix, List.drop_eq_getElem_cons hle, hchar, List.count_cons_self]
        exact Nat.add_le_add_right ih 1
      · rw [htails, if_neg hprefix]
        have hsublist : (rest.drop k).Sublist ((t :: rest).drop k) := by
          have hsuffix := List.drop_sublist 1 ((t :: rest).drop k)
          rwa [List.drop_drop, Nat.add_comm, ← List.drop_drop] at hsuffix
        exact ih.trans (hsublist.count_le _)
  exact hdrop.trans (List.Sublist.count_le _ (List.drop_sublist k tokens))

/-- A text occurs once where one of its characters stands nowhere else. -/
theorem occurrences_eq_one [DecidableEq μ] {s : String} {c : Char} (hc : s.toList.count c = 1)
    {before after : List (Token μ)} (hbefore : .char c ∉ before) (hafter : .char c ∉ after) :
    occurrences s (before ++ (fixed s ++ after)) = 1 := by
  have hmem : c ∈ s.toList := List.count_pos_iff.1 (by omega)
  have hcount : (fixed s : List (Token μ)).count (.char c) = 1 := by
    have hinjective : Function.Injective (Token.char (μ := μ)) := fun _ _ h => Token.char.inj h
    rw [fixed, List.count_map_of_injective _ _ hinjective, hc]
  have hle := occurrences_le_count hmem (before ++ (fixed s ++ after))
  rw [List.count_append, List.count_append, List.count_eq_zero.2 hbefore,
    List.count_eq_zero.2 hafter, hcount] at hle
  have hpos : 0 < occurrences s (before ++ (fixed s ++ after)) := by
    refine List.countP_pos_iff.2 ⟨fixed s ++ after, ?_, ?_⟩
    · exact (List.mem_tails _ _).2 (List.suffix_append _ _)
    · exact List.isPrefixOf_iff_prefix.2 (List.prefix_append _ _)
  omega

end Token

/-- The tokens of a text, markers numbered by occurrence. -/
def Dialect.lex (d : Dialect) (text : String) : Option (List (Token Nat)) :=
  (d.tokens text.toList).map (Token.counted 0)

/-- The window that an engine reads from a clause; the empty clause selects none. -/
def Dialect.window? (d : Dialect) (clause : String) : Option (Option Window) :=
  readWindow d (Token.fixed clause)

/-- A dialect spells a statement as the tokens it has without its window, followed by
  a clause from which the engine reads the window. -/
def Dialect.Spells (d : Dialect) (s : Select) (body : List (Token Nat)) : Prop :=
  d.lex ({ s with window := none }.render d).text = some body ∧
    ∃ clause, d.lex (s.render d).text = some (body ++ Token.fixed clause) ∧
      d.window? clause = some s.window

namespace Sql

open Token

variable {d d' : Dialect} {s : Select}

-- ════════════════════════════════════════════════════════════════════════
-- Trees
-- ════════════════════════════════════════════════════════════════════════

theorem tableTokens_congr (d d' : Dialect) (t : TableName) :
    tableTokens d t = tableTokens d' t := by
  rw [tableTokens, tableTokens, tablePieces]
  cases t.schema <;> rfl

/-- The tokens of an expression are the same in every dialect. -/
theorem Expr.tokens_congr (d d' : Dialect) (e : Expr) : e.tokens d = e.tokens d' := by
  induction e using Expr.induct with
  | binary b l r ihl ihr => rw [tokens_binary, tokens_binary, ihl, ihr]
  | isIn e items ih ihitems =>
    have hitems : items.map (tokens d) = items.map (tokens d') := List.map_congr_left ihitems
    rw [tokens_isIn, tokens_isIn, ih, hitems]
  | nullTest test e ih => rw [tokens_nullTest, tokens_nullTest, ih]
  | column c =>
    rw [tokens_column, tokens_column, columnTokens, columnTokens, tableTokens_congr d d']
  | param p => rfl
  | countRows => rw [tokens_countRows, tokens_countRows]

namespace Select

/-- Only the clause for the window depends on the dialect. -/
theorem tokens_eq_append : s.tokens d =
    { s with window := none }.tokens d ++ windowTokens d (!s.ordering.isEmpty) s.window := by
  simp [tokens_eq, windowTokens]

/-- Without a window the tokens of a statement are the same in every dialect. -/
theorem tokens_congr (d d' : Dialect) (hwindow : s.window = none) : s.tokens d = s.tokens d' := by
  have houtput : Output.tokens d = Output.tokens d' := by
    funext o
    rw [Output.tokens, Output.tokens, Expr.tokens_congr d d']
  have hjoin : Join.tokens d = Join.tokens d' := by
    funext j
    rw [Join.tokens, Join.tokens, tableTokens_congr d d', Expr.tokens_congr d d']
  have hkey : OrderKey.tokens d = OrderKey.tokens d' := by
    funext k
    rw [OrderKey.tokens, OrderKey.tokens, Expr.tokens_congr d d']
  have hcondition : conditionTokens d s.condition = conditionTokens d' s.condition := by
    cases s.condition with
    | none => rfl
    | some e => rw [conditionTokens, conditionTokens, Expr.tokens_congr d d']
  have hordering : orderingTokens d s.ordering = orderingTokens d' s.ordering := by
    cases s.ordering with
    | nil => rfl
    | cons k rest => rw [orderingTokens, orderingTokens, hkey]
  rw [tokens_eq, tokens_eq, houtput, hjoin, hcondition, hordering, tableTokens_congr d d', hwindow]
  rfl

theorem lex_render : d.lex (s.render d).text = some (counted 0 (s.tokens d)) := by
  rw [Dialect.lex, tokens_render, Option.map_some, counted_numbered]

/-- The tokens of a statement without its window, markers numbered by occurrence.
  They are the same in every dialect. -/
def body (s : Select) : List (Token Nat) :=
  counted 0 ({ s with window := none }.tokens default)

/-- Every dialect spells a statement as the same tokens and the window of its tree. -/
theorem spells (s : Select) (d : Dialect) : d.Spells s s.body := by
  have hbody : counted 0 ({ s with window := none }.tokens d) = s.body := by
    rw [body, tokens_congr d default rfl]
  refine ⟨by rw [lex_render, hbody], ?_⟩
  obtain ⟨clause, hclause⟩ : ∃ clause,
      windowTokens d (!s.ordering.isEmpty) s.window = fixed clause := by
    cases s.window with
    | none => exact ⟨"", rfl⟩
    | some w => exact ⟨d.paging w (!s.ordering.isEmpty), rfl⟩
  refine ⟨clause, ?_, ?_⟩
  · rw [lex_render, tokens_eq_append, counted_append, hbody, hclause, counted_fixed]
  · rw [Dialect.window?, ← hclause]
    exact readWindow_tokens

-- ════════════════════════════════════════════════════════════════════════
-- The ordering that a window needs
-- ════════════════════════════════════════════════════════════════════════

theorem not_mem_tokens_of_table {t : TableName} : .char 'B' ∉ tableTokens d t := by
  rw [tableTokens, tablePieces]
  cases t.schema <;> simp [Piece.tokens, fixed]

end Select

/-- No fixed text of an expression has the letter that tells `ORDER BY` apart. -/
theorem Expr.not_mem_tokens {e : Expr} : .char 'B' ∉ e.tokens d := by
  induction e using Expr.induct with
  | binary b l r ihl ihr =>
    have htext : 'B' ∉ b.text.toList := by
      cases b with
      | and | or => decide
      | compare op => cases op <;> decide
    rw [tokens_binary]
    simp [ihl, ihr, char_mem_fixed, htext]
  | isIn e items ih ihitems =>
    have hitems : .char 'B' ∉ separated (items.map (tokens d)) := by
      refine char_not_mem_separated (by decide) fun group hgroup => ?_
      obtain ⟨x, hx, rfl⟩ := List.mem_map.1 hgroup
      exact ihitems x hx
    rw [tokens_isIn]
    simp [ih, hitems, char_mem_fixed]
  | nullTest test e ih =>
    have htext : 'B' ∉ test.text.toList := by cases test <;> decide
    rw [tokens_nullTest]
    simp [ih, char_mem_fixed, htext]
  | column c =>
    rw [tokens_column, columnTokens]
    simp [Select.not_mem_tokens_of_table, char_mem_fixed]
  | param p => simp [tokens_param]
  | countRows =>
    rw [tokens_countRows]
    simp [char_mem_fixed]

namespace Select

/-- No clause but the ordering and the window has the letter. -/
theorem not_mem_clauses {s : Select} (hordering : s.ordering = []) (hwindow : s.window = none) :
    .char 'B' ∉ s.tokens d := by
  have houtputs : .char 'B' ∉ separated (s.outputs.map (Output.tokens d)) := by
    refine char_not_mem_separated (by decide) fun group hgroup => ?_
    obtain ⟨o, -, rfl⟩ := List.mem_map.1 hgroup
    rw [Output.tokens]
    simp [Expr.not_mem_tokens, char_mem_fixed]
  have hjoins : .char 'B' ∉ s.joins.flatMap (Join.tokens d) := by
    intro hmem
    obtain ⟨j, -, hmem⟩ := List.mem_flatMap.1 hmem
    revert hmem
    rw [Join.tokens]
    simp [Expr.not_mem_tokens, not_mem_tokens_of_table, char_mem_fixed]
  have hcondition : .char 'B' ∉ conditionTokens d s.condition := by
    cases s.condition with
    | none => simp [conditionTokens]
    | some e =>
      rw [conditionTokens]
      simp [Expr.not_mem_tokens, char_mem_fixed]
  rw [tokens_eq, hordering, hwindow]
  simp [houtputs, hjoins, hcondition, not_mem_tokens_of_table, char_mem_fixed, orderingTokens,
    windowTokens]

theorem not_mem_keys {keys : List OrderKey} :
    .char 'B' ∉ separated (keys.map (OrderKey.tokens d)) := by
  refine char_not_mem_separated (by decide) fun group hgroup => ?_
  obtain ⟨key, -, rfl⟩ := List.mem_map.1 hgroup
  have hdirection : 'B' ∉ (directionText key.direction).toList := by
    cases key.direction <;> decide
  rw [OrderKey.tokens]
  simp [Expr.not_mem_tokens, char_mem_fixed, hdirection]

theorem not_mem_number (n : Nat) : 'B' ∉ Nat.toDigits 10 n := by
  intro hmem
  have hdigit : Char.isDigit 'B' = true :=
    Nat.isDigit_of_mem_toDigits (by decide) (by decide) hmem
  cases hdigit

/-- On SQL Server the words `ORDER BY` stand in a statement with a window once. -/
theorem exists_orderBy {w : Window} (hwindow : s.window = some w) :
    ∃ before after, s.tokens .sqlserver = before ++ (fixed "ORDER BY" ++ after) ∧
      .char 'B' ∉ before ∧ .char 'B' ∉ after := by
  let plain : Select := { s with ordering := [], window := none }
  have hplain : .char 'B' ∉ plain.tokens .sqlserver := not_mem_clauses rfl rfl
  have htokens : s.tokens .sqlserver = plain.tokens .sqlserver ++
      (orderingTokens .sqlserver s.ordering ++
        windowTokens .sqlserver (!s.ordering.isEmpty) (some w)) := by
    simp [plain, tokens_eq, orderingTokens, windowTokens, hwindow]
  have hspace : .char 'B' ∉ plain.tokens .sqlserver ++ fixed " " := by
    simp [hplain, char_mem_fixed]
  cases hordering : s.ordering with
  | nil =>
    refine ⟨plain.tokens .sqlserver ++ fixed " ",
      fixed (" (SELECT NULL) OFFSET " ++ Nat.repr w.offset ++ " ROWS FETCH NEXT " ++
        Nat.repr w.limit ++ " ROWS ONLY"), ?_, hspace, ?_⟩
    · rw [htokens, hordering]
      simp [orderingTokens, windowTokens, Dialect.paging, fixed]
    · simp [char_mem_fixed, not_mem_number]
  | cons k rest =>
    have hpaging : .char 'B' ∉ windowTokens .sqlserver true (some w) := by
      simp [windowTokens, Dialect.paging, char_mem_fixed, not_mem_number]
    refine ⟨plain.tokens .sqlserver ++ fixed " ",
      fixed " " ++ (separated ((k :: rest).map (OrderKey.tokens .sqlserver)) ++
        windowTokens .sqlserver true (some w)), ?_, hspace, ?_⟩
    · rw [htokens, hordering]
      simp [orderingTokens, fixed]
    · rw [List.mem_append, List.mem_append, not_or, not_or]
      exact ⟨by simp [char_mem_fixed], not_mem_keys, hpaging⟩

/-- On SQL Server a statement with a window has one `ORDER BY` outside quoted names. -/
theorem occurrences_orderBy {w : Window} (hwindow : s.window = some w) :
    (Dialect.sqlserver.lex (s.render .sqlserver).text).map (occurrences "ORDER BY") = some 1 := by
  obtain ⟨before, after, htokens, hbefore, hafter⟩ := exists_orderBy hwindow
  rw [lex_render, htokens, counted_append, counted_append, counted_fixed, Option.map_some,
    occurrences_eq_one (c := 'B') (by decide) (mt char_mem_counted.1 hbefore)
      (mt char_mem_counted.1 hafter)]

/-- Dialects differ only in spelling. The statements of two engines for one tree have
  the same parameters, and they are spelled as the same tokens up to the clause from
  which each engine reads the window of the tree. On SQL Server, where a window needs an
  ordering, a statement with a window has one `ORDER BY` outside quoted names. -/
theorem spelling_only (s : Select) (d d' : Dialect) :
    (s.render d).params = (s.render d').params ∧
      (∃ body, d.Spells s body ∧ d'.Spells s body) ∧
      (s.window.isSome = true →
        (Dialect.sqlserver.lex (s.render .sqlserver).text).map (occurrences "ORDER BY") =
          some 1) := by
  refine ⟨?_, ⟨s.body, s.spells d, s.spells d'⟩, ?_⟩
  · rw [params_eq, params_eq]
  · intro hwindow
    obtain ⟨w, hw⟩ := Option.isSome_iff_exists.1 hwindow
    exact occurrences_orderBy hw

end Select

end Sql

namespace Storefront

/-- A window of the rows of a table whose names look like quotes and clauses. -/
def awkwardPage : Select where
  outputs := [⟨"ORDER BY", .column ⟨⟨some "a]b", "LIMIT"⟩, "\"x\""⟩⟩]
  source := ⟨some "a]b", "LIMIT"⟩
  joins := []
  condition := some (.compare .equals (.column ⟨⟨some "a]b", "LIMIT"⟩, "?"⟩)
    (.param ⟨.text "ORDER BY", .text⟩))
  ordering := []
  window := some ⟨20, 10⟩

/-- The substitute is the only ordering, although a column is named like one. -/
theorem spelling_awkwardPage :
    awkwardPage.window.isSome = true ∧
      (awkwardPage.render .sqlserver).text =
        "SELECT [a]]b].[LIMIT].[\"x\"] AS [ORDER BY] FROM [a]]b].[LIMIT] " ++
          "WHERE ([a]]b].[LIMIT].[?] = @p0) " ++
          "ORDER BY (SELECT NULL) OFFSET 20 ROWS FETCH NEXT 10 ROWS ONLY" ∧
      (∃ body, Dialect.mysql.Spells awkwardPage body ∧
        Dialect.sqlserver.Spells awkwardPage body) ∧
      (Dialect.sqlserver.lex (awkwardPage.render .sqlserver).text).map
        (Token.occurrences "ORDER BY") = some 1 := by
  obtain ⟨-, hbody, horder⟩ := Select.spelling_only awkwardPage .mysql .sqlserver
  exact ⟨rfl, rfl, hbody, horder rfl⟩

end Storefront

end EntityQuery
