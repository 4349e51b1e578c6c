import EntityQuery.Proofs.Rendering.Trees
import EntityQuery.Proofs.Translation.Parts
import EntityQuery.Storefront

/-!
# Values never reach the text of a statement

Two criteria that ask the same questions about different values become the same
text with different parameters. The text depends on the shape of the criteria
only, and so do the types that the parameters are declared with.

## Main definitions

- `Criteria.SameShape` — criteria that differ in the compared values only
- `Sql.Expr.outline`, `Sql.Select.outline` — a tree without the values of its
  parameters

## Main statements

- `Resolver.text_eq_of_sameShape` — equal texts and equally declared parameters
-/

namespace EntityQuery

open Sql Token

-- ════════════════════════════════════════════════════════════════════════
-- Shapes
-- ════════════════════════════════════════════════════════════════════════

/-- Tests that differ in their values only. -/
def Test.SameShape : Test → Test → Prop
  | .compare op _, .compare op' _ => op = op'
  | .isIn _ rest, .isIn _ rest' => rest.length = rest'.length
  | .isNull, .isNull => True
  | .isNotNull, .isNotNull => True
  | _, _ => False

/-- Predicates that differ in the compared values only. -/
def Predicate.SameShape : Predicate → Predicate → Prop
  | .comparison c, .comparison c' => c.property = c'.property ∧ c.test.SameShape c'.test
  | .and l r, .and l' r' => l.SameShape l' ∧ r.SameShape r'
  | .or l r, .or l' r' => l.SameShape l' ∧ r.SameShape r'
  | _, _ => False

/-- Criteria that differ in the compared values only. -/
structure Criteria.SameShape (a b : Criteria) : Prop where
  /-- The predicates have the same shape, if there are any. -/
  predicate : Option.Rel Predicate.SameShape a.predicate b.predicate
  /-- The sort keys are the same. -/
  sortKeys : a.sortKeys = b.sortKeys
  /-- The windows are the same. -/
  window : a.window = b.window

/-- Predicates of the same shape mention the same properties. -/
theorem Predicate.SameShape.properties {p q : Predicate} (h : p.SameShape q) :
    p.comparisons.map Comparison.property = q.comparisons.map Comparison.property := by
  induction p generalizing q with
  | comparison c =>
    cases q with
    | comparison c' => simpa [comparisons] using h.1
    | and | or => exact h.elim
  | and l r ihl ihr =>
    cases q with
    | and l' r' => simp [comparisons, ihl h.1, ihr h.2]
    | comparison | or => exact h.elim
  | or l r ihl ihr =>
    cases q with
    | or l' r' => simp [comparisons, ihl h.1, ihr h.2]
    | comparison | and => exact h.elim

/-- Criteria of the same shape mention the same properties in their predicates. -/
theorem Criteria.SameShape.properties {a b : Criteria} (h : a.SameShape b) :
    a.comparisons.map Comparison.property = b.comparisons.map Comparison.property := by
  have hpredicate := h.predicate
  rw [comparisons, comparisons]
  generalize a.predicate = p, b.predicate = q at hpredicate
  cases hpredicate with
  | some hpq => exact hpq.properties
  | none => rfl

-- ════════════════════════════════════════════════════════════════════════
-- Trees without values
-- ════════════════════════════════════════════════════════════════════════

namespace Sql

variable {d : Dialect}

/-- The tokens of an expression, knowing of a parameter only its type. -/
def Expr.outline (d : Dialect) (e : Expr) : List (Token ScalarType) :=
  (e.tokens d).map (Token.map Param.type)

/-- The tokens of a statement, knowing of a parameter only its type. -/
def Select.outline (d : Dialect) (s : Select) : List (Token ScalarType) :=
  (s.tokens d).map (Token.map Param.type)

/-- Statements with the same outline have the same text, and their parameters are
  declared with the same types. -/
theorem Select.render_eq_of_outline {s t : Select} (h : s.outline d = t.outline d) :
    (s.render d).text = (t.render d).text ∧
      (s.render d).params.map Param.type = (t.render d).params.map Param.type := by
  rw [outline, outline] at h
  constructor
  · refine String.ext ?_
    rw [text_render, text_render, ← written_map (f := Param.type), h, written_map]
  · rw [params_render, params_render, ← marks_map, h, marks_map]

/-- Statements have the same outline if their conditions do and everything else is
  the same. -/
theorem Select.outline_eq {s t : Select} (houtputs : s.outputs = t.outputs)
    (hsource : s.source = t.source) (hjoins : s.joins = t.joins)
    (hcondition : s.condition.map (Expr.outline d) = t.condition.map (Expr.outline d))
    (hordering : s.ordering = t.ordering) (hwindow : s.window = t.window) :
    s.outline d = t.outline d := by
  have htokens : (conditionTokens d s.condition).map (Token.map Param.type) =
      (conditionTokens d t.condition).map (Token.map Param.type) := by
    match s.condition, t.condition, hcondition with
    | none, none, _ => rfl
    | some x, some y, h =>
      have hxy : x.outline d = y.outline d := Option.some.inj h
      rw [Expr.outline, Expr.outline] at hxy
      rw [conditionTokens, conditionTokens, List.map_append, List.map_append, hxy]
  simp only [outline, tokens_eq, List.map_append, htokens, houtputs, hsource, hjoins, hordering,
    hwindow]

/-- The outline of groups separated by commas. -/
theorem map_separated {groups : List (List (Token Param))} :
    (separated groups).map (Token.map Param.type) =
      separated (groups.map (List.map (Token.map Param.type))) := by
  cases groups with
  | nil => rfl
  | cons group rest =>
    simp [separated, List.map_flatMap, List.flatMap_map, map_fixed]

namespace Expr

variable {x y l r l' r' : Expr}

theorem outline_binary (b : Binary) (hl : l.outline d = l'.outline d)
    (hr : r.outline d = r'.outline d) :
    (b.apply l r).outline d = (b.apply l' r').outline d := by
  rw [outline, outline] at hl hr
  simp only [outline, tokens_binary, List.map_append, hl, hr]

theorem outline_param {p q : Param} (h : p.type = q.type) :
    (param p).outline d = (param q).outline d := by
  simp only [outline, tokens_param, List.map_singleton, Token.map, h]

/-- Lists of parameters of the same types. -/
theorem outline_isIn {ps qs : List Param} (h : ps.map Param.type = qs.map Param.type) :
    (isIn x (ps.map param)).outline d = (isIn x (qs.map param)).outline d := by
  have hgroups (params : List Param) :
      (((params.map param).map (tokens d)).map (List.map (Token.map Param.type))) =
        (params.map Param.type).map fun type => [Token.marker type] := by
    simp only [List.map_map]
    rfl
  simp only [outline, tokens_isIn, List.map_append, map_separated, hgroups, h]

end Expr

end Sql

namespace EntityDescriptor

variable {e : EntityDescriptor} {b : PropertyBinding} {d : Dialect}

/-- A parameter is declared with the type of its column. -/
theorem type_of_param {v : Value} {p : Param} (h : b.param v = .ok p) : p.type = b.column.type := by
  rw [PropertyBinding.param] at h
  split at h
  · cases h
    rfl
  · cases h

/-- Converted values are declared with the type of their column. -/
theorem types_of_params {values : List Value} {params : List Param}
    (h : values.map b.param = params.map .ok) :
    params.map Param.type = List.replicate values.length b.column.type := by
  induction values generalizing params with
  | nil =>
    cases params with
    | nil => rfl
    | cons p params => simp at h
  | cons v rest ih =>
    cases params with
    | nil => simp at h
    | cons p params =>
      obtain ⟨hp, hrest⟩ : b.param v = .ok p ∧ rest.map b.param = params.map .ok := by simpa using h
      rw [List.map_cons, type_of_param hp, ih hrest]
      rfl

/-- Tests of the same shape on one property have the same outline. -/
theorem testCondition_outline {t u : Test} (h : t.SameShape u) {x y : Expr}
    (hx : testCondition b t = .ok x) (hy : testCondition b u = .ok y) :
    x.outline d = y.outline d := by
  cases t with
  | compare op v =>
    cases u with
    | compare op' w =>
      obtain rfl : op = op' := h
      obtain ⟨-, p, hp, rfl⟩ := testCondition_compare.1 hx
      obtain ⟨-, q, hq, rfl⟩ := testCondition_compare.1 hy
      refine Expr.outline_binary (.compare op) rfl (Expr.outline_param ?_)
      rw [type_of_param hp, type_of_param hq]
    | isIn | isNull | isNotNull => exact h.elim
  | isIn first rest =>
    cases u with
    | isIn first' rest' =>
      have hlength : rest.length = rest'.length := h
      obtain ⟨ps, hps, rfl⟩ := testCondition_isIn.1 hx
      obtain ⟨qs, hqs, rfl⟩ := testCondition_isIn.1 hy
      refine Expr.outline_isIn ?_
      rw [types_of_params hps, types_of_params hqs, List.length_cons, List.length_cons, hlength]
    | compare | isNull | isNotNull => exact h.elim
  | isNull =>
    cases u with
    | isNull => rw [Except.ok.inj (hx.symm.trans hy)]
    | compare | isIn | isNotNull => exact h.elim
  | isNotNull =>
    cases u with
    | isNotNull => rw [Except.ok.inj (hx.symm.trans hy)]
    | compare | isIn | isNull => exact h.elim

/-- Predicates of the same shape have conditions with the same outline. -/
theorem conditionOf_outline {p q : Predicate} (h : p.SameShape q) {x y : Expr}
    (hx : e.conditionOf p = .ok x) (hy : e.conditionOf q = .ok y) : x.outline d = y.outline d := by
  -- Both predicates are taken apart together; the shape rules out unlike pairs.
  induction p generalizing q x y with
  | comparison c =>
    cases q with
    | comparison c' =>
      obtain ⟨b, hb, ht⟩ := conditionOf_comparison.1 hx
      obtain ⟨b', hb', ht'⟩ := conditionOf_comparison.1 hy
      rw [← h.1, hb] at hb'
      cases hb'
      exact testCondition_outline h.2 ht ht'
    | and | or => exact h.elim
  | and l r ihl ihr =>
    cases q with
    | and l' r' =>
      obtain ⟨_, _, hl, hr, rfl⟩ := conditionOf_and.1 hx
      obtain ⟨_, _, hl', hr', rfl⟩ := conditionOf_and.1 hy
      exact Expr.outline_binary .and (ihl h.1 hl hl') (ihr h.2 hr hr')
    | comparison | or => exact h.elim
  | or l r ihl ihr =>
    cases q with
    | or l' r' =>
      obtain ⟨_, _, hl, hr, rfl⟩ := conditionOf_or.1 hx
      obtain ⟨_, _, hl', hr', rfl⟩ := conditionOf_or.1 hy
      exact Expr.outline_binary .or (ihl h.1 hl hl') (ihr h.2 hr hr')
    | comparison | and => exact h.elim

/-- Criteria of the same shape have conditions with the same outline. -/
theorem conditionOf?_outline {a b : Criteria} (h : a.SameShape b) {x y : Option Expr}
    (hx : e.conditionOf? a.predicate = .ok x) (hy : e.conditionOf? b.predicate = .ok y) :
    x.map (Expr.outline d) = y.map (Expr.outline d) := by
  match a.predicate, b.predicate, h.predicate, hx, hy with
  | none, none, .none, hx, hy =>
    cases hx
    cases hy
    rfl
  | some p, some q, .some hpq, hx, hy =>
    obtain ⟨x, hp, rfl⟩ := conditionOf?_some.1 hx
    obtain ⟨y, hq, rfl⟩ := conditionOf?_some.1 hy
    exact congrArg some (conditionOf_outline hpq hp hq)

/-- Criteria of the same shape have selecting statements with the same outline. -/
theorem select_outline {a b : Criteria} (h : a.SameShape b) {s t : Select}
    (hs : e.select a = .ok s) (ht : e.select b = .ok t) : s.outline d = t.outline d := by
  obtain ⟨x, ordering, hx, ho, rfl⟩ := select_eq_ok.1 hs
  obtain ⟨y, ordering', hy, ho', rfl⟩ := select_eq_ok.1 ht
  rw [h.sortKeys, ho'] at ho
  have hproperties : a.referencedProperties = b.referencedProperties := by
    rw [Criteria.referencedProperties, Criteria.referencedProperties, h.properties, h.sortKeys]
  rw [hproperties]
  exact Select.outline_eq rfl rfl rfl (conditionOf?_outline h hx hy) (Except.ok.inj ho).symm
    h.window

/-- Criteria of the same shape have counting statements with the same outline. -/
theorem countSelect_outline {a b : Criteria} (h : a.SameShape b) {s t : Select}
    (hs : e.countSelect a = .ok s) (ht : e.countSelect b = .ok t) :
    s.outline d = t.outline d := by
  obtain ⟨-, x, hx, rfl⟩ := countSelect_eq_ok.1 hs
  obtain ⟨-, y, hy, rfl⟩ := countSelect_eq_ok.1 ht
  rw [h.properties]
  exact Select.outline_eq rfl rfl rfl (conditionOf?_outline h hx hy) rfl rfl

end EntityDescriptor

/-- Values never reach the text of a statement. Criteria that differ in the
  compared values only have the same text in every dialect, and equally many
  parameters, declared with the same types. This holds for selecting and for
  counting statements. -/
theorem Resolver.text_eq_of_sameShape (r : Resolver) (d : Dialect) (entity : String)
    {a b : Criteria} (h : a.SameShape b) {s t : Statement}
    (hst : (r.statement d entity a = .ok s ∧ r.statement d entity b = .ok t) ∨
      (r.countStatement d entity a = .ok s ∧ r.countStatement d entity b = .ok t)) :
    s.text = t.text ∧ s.params.length = t.params.length ∧
      s.params.map Param.type = t.params.map Param.type := by
  obtain ⟨x, y, hxy, rfl, rfl⟩ : ∃ x y : Select,
      x.outline d = y.outline d ∧ s = x.render d ∧ t = y.render d := by
    rcases hst with ⟨hs, ht⟩ | ⟨hs, ht⟩
    · obtain ⟨x, hx, rfl⟩ := statement_eq_ok.1 hs
      obtain ⟨y, hy, rfl⟩ := statement_eq_ok.1 ht
      obtain ⟨e, he, hx⟩ := select_eq_ok.1 hx
      obtain ⟨e', he', hy⟩ := select_eq_ok.1 hy
      obtain rfl : e = e' := Except.ok.inj (he.symm.trans he')
      exact ⟨x, y, EntityDescriptor.select_outline h hx hy, rfl, rfl⟩
    · obtain ⟨x, hx, rfl⟩ := countStatement_eq_ok.1 hs
      obtain ⟨y, hy, rfl⟩ := countStatement_eq_ok.1 ht
      obtain ⟨e, he, hx⟩ := countSelect_eq_ok.1 hx
      obtain ⟨e', he', hy⟩ := countSelect_eq_ok.1 hy
      obtain rfl : e = e' := Except.ok.inj (he.symm.trans he')
      exact ⟨x, y, EntityDescriptor.countSelect_outline h hx hy, rfl, rfl⟩
  obtain ⟨htext, htypes⟩ := Select.render_eq_of_outline hxy
  have hlength : ((x.render d).params.map Param.type).length =
      ((y.render d).params.map Param.type).length := congrArg List.length htypes
  rw [List.length_map, List.length_map] at hlength
  exact ⟨htext, hlength, htypes⟩

namespace Storefront

/-- Customers by two addresses, or with a note that matches a pattern. -/
def byAddresses (first second pattern : String) : Criteria where
  predicate := some (.or (.comparison ⟨"email", .isIn (.text first) [.text second]⟩)
    (.comparison ⟨"note", .compare .like (.text pattern)⟩))
  sortKeys := [⟨"email", .ascending⟩]

/-- A value that looks like the end of a statement leaves the text as it is. -/
theorem text_eq_of_byAddresses :
    ∃ r s t, Registry.ofMapping customerMapping = .ok r ∧
      (byAddresses "a" "b" "%").SameShape (byAddresses "'; DROP TABLE customers" "?" "") ∧
      r.resolver.statement .mysql "Customer" (byAddresses "a" "b" "%") = .ok s ∧
      r.resolver.statement .mysql "Customer"
        (byAddresses "'; DROP TABLE customers" "?" "") = .ok t ∧
      s.text = t.text ∧ s.params.length = t.params.length ∧
      s.params.map Param.type = t.params.map Param.type := by
  have hshape : (byAddresses "a" "b" "%").SameShape
      (byAddresses "'; DROP TABLE customers" "?" "") := by
    refine ⟨.some ?_, rfl, rfl⟩
    simp [Predicate.SameShape, Test.SameShape]
  obtain ⟨r, hr, s, hs, t, ht⟩ : ∃ r, Registry.ofMapping customerMapping = .ok r ∧
      ∃ s, r.resolver.statement .mysql "Customer" (byAddresses "a" "b" "%") = .ok s ∧
        ∃ t, r.resolver.statement .mysql "Customer"
          (byAddresses "'; DROP TABLE customers" "?" "") = .ok t :=
    ⟨_, rfl, _, rfl, _, rfl⟩
  exact ⟨r, s, t, hr, hshape, hs, ht,
    Resolver.text_eq_of_sameShape r.resolver .mysql "Customer" hshape (.inl ⟨hs, ht⟩)⟩

end Storefront

end EntityQuery
