import Mathlib.Data.List.Forall2
import EntityQuery.Translation.Select

/-!
# The parts of a translated statement

A translation walks the predicate and the sort keys once and hands the joins made
so far from step to step. Condition, ordering and joins can still be read off
apart: the joins depend only on the properties mentioned and their order, the
condition and the ordering do not depend on the joins.

## Main definitions

- `EntityDescriptor.conditionOf`, `EntityDescriptor.orderingOf` — condition and
  ordering without joins
- `EntityDescriptor.mentionAll` — the joins after properties have been mentioned

## Main statements

- `EntityDescriptor.condition_eq`, `EntityDescriptor.ordering_eq` — a walk is its
  parts, failures included
- `EntityDescriptor.conditionOf_forall₂` — what is read off a condition follows the
  comparisons of its predicate
- `EntityDescriptor.select_eq_ok`, `EntityDescriptor.countSelect_eq_ok` — what
  successful translations have built
-/

namespace EntityQuery

open Sql

/-- Renaming a failure leaves what succeeds as it was. -/
theorem mapError_eq_ok {ε ε' α : Type} {f : ε → ε'} {x : Except ε α} {a : α} :
    x.mapError f = .ok a ↔ x = .ok a := by
  cases x with
  | error err => exact ⟨nofun, nofun⟩
  | ok y => exact ⟨fun h => congrArg _ (Except.ok.inj h), fun h => congrArg _ (Except.ok.inj h)⟩

namespace EntityDescriptor

variable {e : EntityDescriptor} {b : PropertyBinding}

-- ════════════════════════════════════════════════════════════════════════
-- Properties and tests
-- ════════════════════════════════════════════════════════════════════════

/-- A looked up binding is one of the entity's, and it is the property's. -/
theorem mem_of_binding {property : String} (h : e.binding property = .ok b) :
    b ∈ e.bindings ∧ b.property = property := by
  rw [binding] at h
  split at h
  · rename_i found hfound
    cases h
    exact ⟨List.mem_of_find?_eq_some hfound, by simpa using List.find?_some hfound⟩
  · cases h

theorem bindingOf_eq_ok {property : String} :
    e.bindingOf property = .ok b ↔ e.binding property = .ok b := by
  rw [bindingOf, mapError_eq_ok]

/-- The parameters of compared values are the converted values, in order. -/
theorem paramsOf_eq_ok {values : List Value} {items : List Expr} :
    paramsOf b values = .ok items ↔
      ∃ params : List Param, values.map b.param = params.map .ok ∧
        items = params.map Expr.param := by
  induction values generalizing items with
  | nil => simp [paramsOf, eq_comm]
  | cons v rest ih =>
    rw [paramsOf]
    cases hv : b.param v with
    | error err =>
      simp only [reduceCtorEq, List.map_cons, hv, false_iff, not_exists]
      rintro params ⟨hparams, -⟩
      cases params <;> simp at hparams
    | ok p =>
      constructor
      · intro h
        cases hrest : paramsOf b rest with
        | error err => simp [hrest, Except.map] at h
        | ok items' =>
          obtain ⟨params, hparams, rfl⟩ := ih.1 hrest
          rw [hrest] at h
          cases h
          exact ⟨p :: params, by simp [hv, hparams], by simp⟩
      · rintro ⟨params, hparams, rfl⟩
        cases params with
        | nil => simp at hparams
        | cons p' params =>
          obtain ⟨rfl, hrest⟩ : p = p' ∧ rest.map b.param = params.map .ok := by
            simpa [hv] using hparams
          rw [ih.2 ⟨params, hrest, rfl⟩]
          rfl

/-- The condition of a comparison with a single value. -/
theorem testCondition_compare {op : CompareOp} {v : Value} {x : Expr} :
    testCondition b (.compare op v) = .ok x ↔
      (op = .like → b.column.type.supportsPatterns = true) ∧
        ∃ p, b.param v = .ok p ∧ x = .compare op (columnOf b) (.param p) := by
  rw [testCondition]
  by_cases hlike : op = .like ∧ !b.column.type.supportsPatterns
  · rw [if_pos hlike]
    simp only [reduceCtorEq, false_iff, not_and]
    intro hguard
    simp [hguard hlike.1] at hlike
  · rw [if_neg hlike]
    have hguard : op = .like → b.column.type.supportsPatterns = true := by simpa using hlike
    cases b.param v with
    | error err => simp [Except.map]
    | ok p =>
      constructor
      · rintro ⟨⟩
        exact ⟨hguard, p, rfl, rfl⟩
      · rintro ⟨-, p', hp, rfl⟩
        cases hp
        rfl

/-- The condition of a comparison with a set of values. -/
theorem testCondition_isIn {first : Value} {rest : List Value} {x : Expr} :
    testCondition b (.isIn first rest) = .ok x ↔
      ∃ params : List Param, (first :: rest).map b.param = params.map .ok ∧
        x = .isIn (columnOf b) (params.map Expr.param) := by
  rw [testCondition]
  cases h : paramsOf b (first :: rest) with
  | error err =>
    constructor
    · intro herr
      cases herr
    · rintro ⟨params, hparams, -⟩
      rw [paramsOf_eq_ok.2 ⟨params, hparams, rfl⟩] at h
      cases h
  | ok items =>
    obtain ⟨params, hparams, rfl⟩ := paramsOf_eq_ok.1 h
    constructor
    · rintro ⟨⟩
      exact ⟨params, hparams, rfl⟩
    · rintro ⟨params', hparams', rfl⟩
      rw [paramsOf_eq_ok.2 ⟨params', hparams', rfl⟩] at h
      rw [← Except.ok.inj h]
      rfl

-- ════════════════════════════════════════════════════════════════════════
-- Condition, ordering and joins apart
-- ════════════════════════════════════════════════════════════════════════

/-- The condition of a predicate. -/
def conditionOf (e : EntityDescriptor) : Predicate → Except QueryError Expr
  | .comparison c =>
    match e.bindingOf c.property with
    | .error err => .error err
    | .ok b => (testCondition b c.test).mapError .invalidPredicate
  | .and l r =>
    match conditionOf e l with
    | .error err => .error err
    | .ok x => (conditionOf e r).map (.and x)
  | .or l r =>
    match conditionOf e l with
    | .error err => .error err
    | .ok x => (conditionOf e r).map (.or x)

/-- The condition of an optional predicate. -/
def conditionOf? (e : EntityDescriptor) : Option Predicate → Except QueryError (Option Expr)
  | none => .ok none
  | some p => (e.conditionOf p).map some

/-- The keys of an ordering. -/
def orderingOf (e : EntityDescriptor) : List SortKey → Except QueryError (List OrderKey)
  | [] => .ok []
  | k :: rest =>
    match e.bindingOf k.property with
    | .error err => .error err
    | .ok b => (orderingOf e rest).map (⟨columnOf b, k.direction⟩ :: ·)

/-- The joins after properties have been mentioned. Properties that are not
  mapped join nothing. -/
def mentionAll (e : EntityDescriptor) : List String → Joins → Joins
  | [], joins => joins
  | property :: rest, joins =>
    match e.binding property with
    | .error _ => mentionAll e rest joins
    | .ok b => mentionAll e rest (e.mention b joins)

/-- Mentioning properties and then further properties. -/
theorem mentionAll_append {first second : List String} {joins : Joins} :
    e.mentionAll (first ++ second) joins = e.mentionAll second (e.mentionAll first joins) := by
  induction first generalizing joins with
  | nil => rfl
  | cons property rest ih =>
    rw [List.cons_append, mentionAll, mentionAll]
    cases e.binding property <;> exact ih

/-- Mentioning a property that is mapped. -/
theorem mentionAll_cons {property : String} {rest : List String} {joins : Joins}
    (h : e.binding property = .ok b) :
    e.mentionAll (property :: rest) joins = e.mentionAll rest (e.mention b joins) := by
  rw [mentionAll, h]

/-- Mentioning properties makes joins of extension tables only. -/
theorem mem_mentionAll {properties : List String} {joins : Joins} {j : Join}
    (h : j ∈ e.mentionAll properties joins) :
    j ∈ joins ∨ ∃ table joinColumn, j = e.joinOf table joinColumn := by
  induction properties generalizing joins with
  | nil => exact .inl h
  | cons property rest ih =>
    rw [mentionAll] at h
    split at h
    · exact ih h
    · rename_i b hb
      obtain hj | hj := ih h
      · rw [mention] at hj
        split at hj
        · exact .inl hj
        · split at hj
          · exact .inl hj
          · obtain hj | rfl := by simpa using hj
            · exact .inl hj
            · exact .inr ⟨_, _, rfl⟩
      · exact .inr hj

/-- Walking a predicate builds its condition and mentions the properties of its
  comparisons, whatever has been joined before. -/
theorem condition_eq {p : Predicate} {joins : Joins} :
    e.condition p joins = (e.conditionOf p).map fun x =>
      (x, e.mentionAll (p.comparisons.map Comparison.property) joins) := by
  -- The right side of a connective starts from the joins that the left side leaves.
  induction p generalizing joins with
  | comparison c =>
    rw [condition, conditionOf]
    cases hb : e.bindingOf c.property with
    | error err => rfl
    | ok b =>
      have hmention : e.mentionAll [c.property] joins = e.mention b joins :=
        mentionAll_cons (bindingOf_eq_ok.1 hb)
      simp only [Predicate.comparisons, List.map_singleton, hmention]
      cases testCondition b c.test <;> rfl
  | and l r ihl ihr =>
    rw [condition, conditionOf, ihl]
    cases e.conditionOf l with
    | error err => rfl
    | ok x =>
      simp only [Except.map, ihr, Predicate.comparisons, List.map_append, mentionAll_append]
      cases e.conditionOf r <;> rfl
  | or l r ihl ihr =>
    rw [condition, conditionOf, ihl]
    cases e.conditionOf l with
    | error err => rfl
    | ok x =>
      simp only [Except.map, ihr, Predicate.comparisons, List.map_append, mentionAll_append]
      cases e.conditionOf r <;> rfl

/-- Walking the predicate of criteria. -/
theorem condition?_eq {c : Criteria} {joins : Joins} :
    e.condition? c.predicate joins = (e.conditionOf? c.predicate).map fun x =>
      (x, e.mentionAll (c.comparisons.map Comparison.property) joins) := by
  rw [Criteria.comparisons]
  cases c.predicate with
  | none => rfl
  | some p =>
    rw [condition?, conditionOf?, condition_eq]
    cases e.conditionOf p <;> rfl

/-- Walking sort keys builds the ordering and mentions their properties, whatever
  has been joined before. -/
theorem ordering_eq {keys : List SortKey} {joins : Joins} :
    e.ordering keys joins = (e.orderingOf keys).map fun built =>
      (built, e.mentionAll (keys.map SortKey.property) joins) := by
  induction keys generalizing joins with
  | nil => rfl
  | cons k rest ih =>
    rw [ordering, orderingOf]
    cases hb : e.bindingOf k.property with
    | error err => rfl
    | ok b =>
      simp only [ih, List.map_cons, mentionAll_cons (bindingOf_eq_ok.1 hb)]
      cases e.orderingOf rest <;> rfl

theorem conditionOf_comparison {c : Comparison} {x : Expr} :
    e.conditionOf (.comparison c) = .ok x ↔
      ∃ b, e.binding c.property = .ok b ∧ testCondition b c.test = .ok x := by
  rw [conditionOf]
  cases hb : e.bindingOf c.property with
  | error err =>
    simp only [reduceCtorEq, false_iff, not_exists]
    rintro b ⟨hbinding, -⟩
    rw [bindingOf_eq_ok.2 hbinding] at hb
    cases hb
  | ok b =>
    rw [bindingOf_eq_ok] at hb
    simp [hb, mapError_eq_ok]

theorem conditionOf_and {l r : Predicate} {x : Expr} :
    e.conditionOf (.and l r) = .ok x ↔
      ∃ y z, e.conditionOf l = .ok y ∧ e.conditionOf r = .ok z ∧ x = .and y z := by
  rw [conditionOf]
  cases e.conditionOf l with
  | error err => simp
  | ok y => cases e.conditionOf r <;> simp [Except.map, eq_comm]

theorem conditionOf_or {l r : Predicate} {x : Expr} :
    e.conditionOf (.or l r) = .ok x ↔
      ∃ y z, e.conditionOf l = .ok y ∧ e.conditionOf r = .ok z ∧ x = .or y z := by
  rw [conditionOf]
  cases e.conditionOf l with
  | error err => simp
  | ok y => cases e.conditionOf r <;> simp [Except.map, eq_comm]

theorem conditionOf?_some {p : Predicate} {condition : Option Expr} :
    e.conditionOf? (some p) = .ok condition ↔
      ∃ x, e.conditionOf p = .ok x ∧ condition = some x := by
  rw [conditionOf?]
  cases e.conditionOf p <;> simp [Except.map, eq_comm]

section ItemByItem

variable {α β : Type} {R : α → β → Prop} {asked : Comparison → List α} {read : Expr → List β}

/-- What is read off a condition from left to right belongs, item by item, to what
  the comparisons of its predicate ask for, if it does for every single comparison. -/
theorem conditionOf_forall₂ (hand : ∀ l r, read (.and l r) = read l ++ read r)
    (hor : ∀ l r, read (.or l r) = read l ++ read r)
    (htest : ∀ c b x, e.binding c.property = .ok b → testCondition b c.test = .ok x →
      List.Forall₂ R (asked c) (read x))
    {p : Predicate} {x : Expr} (h : e.conditionOf p = .ok x) :
    List.Forall₂ R (p.comparisons.flatMap asked) (read x) := by
  induction p generalizing x with
  | comparison c =>
    obtain ⟨b, hb, ht⟩ := conditionOf_comparison.1 h
    rw [Predicate.comparisons, List.flatMap_singleton]
    exact htest c b x hb ht
  | and l r ihl ihr =>
    obtain ⟨y, z, hy, hz, rfl⟩ := conditionOf_and.1 h
    rw [Predicate.comparisons, List.flatMap_append, hand]
    exact List.rel_append (ihl hy) (ihr hz)
  | or l r ihl ihr =>
    obtain ⟨y, z, hy, hz, rfl⟩ := conditionOf_or.1 h
    rw [Predicate.comparisons, List.flatMap_append, hor]
    exact List.rel_append (ihl hy) (ihr hz)

theorem conditionOf?_forall₂
    (hread : ∀ p x, e.conditionOf p = .ok x →
      List.Forall₂ R (p.comparisons.flatMap asked) (read x))
    {c : Criteria} {condition : Option Expr} (h : e.conditionOf? c.predicate = .ok condition) :
    List.Forall₂ R (c.comparisons.flatMap asked) (condition.toList.flatMap read) := by
  rw [Criteria.comparisons]
  cases hp : c.predicate with
  | none =>
    rw [hp] at h
    cases h
    exact .nil
  | some p =>
    rw [hp] at h
    obtain ⟨x, hx, rfl⟩ := conditionOf?_some.1 h
    rw [Option.toList_some, List.flatMap_singleton]
    exact hread p x hx

end ItemByItem

theorem orderingOf_cons {k : SortKey} {rest : List SortKey} {keys : List OrderKey} :
    e.orderingOf (k :: rest) = .ok keys ↔
      ∃ b more, e.binding k.property = .ok b ∧ e.orderingOf rest = .ok more ∧
        keys = ⟨columnOf b, k.direction⟩ :: more := by
  rw [orderingOf]
  cases hb : e.bindingOf k.property with
  | error err =>
    simp only [reduceCtorEq, false_iff, not_exists]
    rintro b more ⟨hbinding, -⟩
    rw [bindingOf_eq_ok.2 hbinding] at hb
    cases hb
  | ok b =>
    rw [bindingOf_eq_ok] at hb
    cases e.orderingOf rest <;> simp [hb, Except.map, eq_comm]

-- ════════════════════════════════════════════════════════════════════════
-- Statements
-- ════════════════════════════════════════════════════════════════════════

/-- What a successful selecting translation has built. -/
theorem select_eq_ok {c : Criteria} {s : Select} :
    e.select c = .ok s ↔
      ∃ condition ordering,
        e.conditionOf? c.predicate = .ok condition ∧ e.orderingOf c.sortKeys = .ok ordering ∧
        s = { outputs := e.outputs, source := e.primaryTable
              joins := e.mentionAll c.referencedProperties []
              condition, ordering, window := c.window } := by
  rw [select, condition?_eq]
  cases e.conditionOf? c.predicate with
  | error err => simp [Except.map]
  | ok condition =>
    simp only [Except.map, ordering_eq, Criteria.referencedProperties, mentionAll_append]
    cases e.orderingOf c.sortKeys <;> simp [eq_comm]

/-- What a successful counting translation has built. -/
theorem countSelect_eq_ok {c : Criteria} {s : Select} :
    e.countSelect c = .ok s ↔
      e.checkMapped c.referencedProperties = .ok () ∧
        ∃ condition, e.conditionOf? c.predicate = .ok condition ∧
          s = { Sql.countSelect e.primaryTable with
                joins := e.mentionAll (c.comparisons.map Comparison.property) []
                condition } := by
  rw [countSelect]
  cases e.checkMapped c.referencedProperties with
  | error err => simp
  | ok _ =>
    simp only [condition?_eq]
    cases e.conditionOf? c.predicate <;> simp [Except.map, eq_comm]

end EntityDescriptor

namespace Resolver

variable {r : Resolver} {entity : String} {c : Criteria}

theorem select_of_descriptor {e : EntityDescriptor} (he : r.descriptor entity = .ok e) :
    r.select entity c = e.select c := by
  rw [select, he]

theorem countSelect_of_descriptor {e : EntityDescriptor} (he : r.descriptor entity = .ok e) :
    r.countSelect entity c = e.countSelect c := by
  rw [countSelect, he]

/-- A selecting statement is that of the entity's descriptor. -/
theorem select_eq_ok {s : Select} :
    r.select entity c = .ok s ↔
      ∃ e, r.descriptor entity = .ok e ∧ e.select c = .ok s := by
  rw [select]
  cases r.descriptor entity <;> simp

/-- A counting statement is that of the entity's descriptor. -/
theorem countSelect_eq_ok {s : Select} :
    r.countSelect entity c = .ok s ↔
      ∃ e, r.descriptor entity = .ok e ∧ e.countSelect c = .ok s := by
  rw [countSelect]
  cases r.descriptor entity <;> simp

/-- The text of a selecting statement is that of its tree. -/
theorem statement_eq_ok {d : Dialect} {s : Statement} :
    r.statement d entity c = .ok s ↔
      ∃ tree, r.select entity c = .ok tree ∧ s = tree.render d := by
  rw [statement]
  cases r.select entity c <;> simp [Except.map, eq_comm]

/-- The text of a counting statement is that of its tree. -/
theorem countStatement_eq_ok {d : Dialect} {s : Statement} :
    r.countStatement d entity c = .ok s ↔
      ∃ tree, r.countSelect entity c = .ok tree ∧ s = tree.render d := by
  rw [countStatement]
  cases r.countSelect entity c <;> simp [Except.map, eq_comm]

end Resolver

end EntityQuery
