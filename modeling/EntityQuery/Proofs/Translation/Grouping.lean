import Mathlib.Data.List.Forall2
import EntityQuery.Proofs.Semantics.Evaluation
import EntityQuery.Proofs.Translation.Parameters

/-!
# Grouping does not matter

A translation depends on the comparisons of a predicate in their order, and the truth of
the resulting condition on the truth of the predicate. Criteria that agree on both are
translated alike, so `and` and `or` may be regrouped freely: joins, parameters and faults
stay the same, and the condition keeps its truth under every interpretation of its leaves.

## Main definitions

- `Sql.Expr.truthUnder`, `Predicate.truthUnder` — truth under an interpretation of leaves
- `Criteria.SameEffect`, `Sql.Select.SameEffect` — criteria and statements that select alike
- `Alike` — two outcomes fail with the same error, or both succeed

## Main statements

- `Resolver.select_alike` — criteria that select alike are translated alike
- `Resolver.select_regrouped` — regrouped criteria, and what combined criteria mean
-/

namespace EntityQuery

open Sql

-- ════════════════════════════════════════════════════════════════════════
-- Truth under an interpretation
-- ════════════════════════════════════════════════════════════════════════

namespace Truth

theorem and_assoc (t u v : Truth) : (t.and u).and v = t.and (u.and v) := by
  cases t <;> cases u <;> cases v <;> rfl

theorem or_assoc (t u v : Truth) : (t.or u).or v = t.or (u.or v) := by
  cases t <;> cases u <;> cases v <;> rfl

@[simp]
theorem yes_and (t : Truth) : Truth.yes.and t = t := by
  cases t <;> rfl

@[simp]
theorem and_yes (t : Truth) : t.and .yes = t := by
  cases t <;> rfl

@[simp]
theorem yes_or (t : Truth) : Truth.yes.or t = .yes := by
  cases t <;> rfl

@[simp]
theorem or_yes (t : Truth) : t.or .yes = .yes := by
  cases t <;> rfl

end Truth

/-- The truth of a condition, given the truth of its leaves. -/
def Sql.Expr.truthUnder (leaf : Expr → Truth) : Expr → Truth
  | .and l r => (l.truthUnder leaf).and (r.truthUnder leaf)
  | .or l r => (l.truthUnder leaf).or (r.truthUnder leaf)
  | x => leaf x

/-- The truth of the condition of a statement, if it has one. -/
def Sql.Select.truthUnder (leaf : Expr → Truth) (s : Select) : Truth :=
  s.condition.elim .yes (Expr.truthUnder leaf)

/-- The truth of a predicate, given the truth of its comparisons. -/
def Predicate.truthUnder (leaf : Comparison → Truth) : Predicate → Truth
  | .comparison c => leaf c
  | .and l r => (l.truthUnder leaf).and (r.truthUnder leaf)
  | .or l r => (l.truthUnder leaf).or (r.truthUnder leaf)

/-- The truth of the predicate of criteria, if they have one. -/
def Criteria.truthUnder (leaf : Comparison → Truth) (c : Criteria) : Truth :=
  c.predicate.elim .yes (Predicate.truthUnder leaf)

-- ════════════════════════════════════════════════════════════════════════
-- Outcomes
-- ════════════════════════════════════════════════════════════════════════

section Outcomes

variable {ε α β : Type} {R : α → α → Prop} {x y : Except ε α}

/-- Two outcomes fail with the same error, or both succeed and their results are related. -/
inductive Alike (R : α → α → Prop) : Except ε α → Except ε α → Prop
  | error {err : ε} : Alike R (.error err) (.error err)
  | ok {a b : α} (h : R a b) : Alike R (.ok a) (.ok b)

/-- The error of an outcome, if there is one. -/
def error? : Except ε α → Option ε
  | .error err => some err
  | .ok _ => none

theorem Alike.of_error? (herror : error? x = error? y)
    (hok : ∀ a b, x = .ok a → y = .ok b → R a b) : Alike R x y := by
  cases x with
  | error err =>
    cases y with
    | error err' =>
      obtain rfl : err = err' := Option.some.inj herror
      exact .error
    | ok b => cases herror
  | ok a =>
    cases y with
    | error err' => cases herror
    | ok b => exact .ok (hok a b rfl rfl)

end Outcomes

-- ════════════════════════════════════════════════════════════════════════
-- What a translation depends on
-- ════════════════════════════════════════════════════════════════════════

/-- Statements that select alike: the same in everything but the grouping of their
  conditions. -/
structure Sql.Select.SameEffect (s s' : Select) : Prop where
  outputs : s.outputs = s'.outputs
  source : s.source = s'.source
  joins : s.joins = s'.joins
  truth : ∀ leaf, s.truthUnder leaf = s'.truthUnder leaf
  ordering : s.ordering = s'.ordering
  window : s.window = s'.window
  params : ∀ d, (s.render d).params = (s'.render d).params

/-- Criteria that select alike: the same in everything but the grouping of their
  predicates. -/
structure Criteria.SameEffect (c c' : Criteria) : Prop where
  comparisons : c.comparisons = c'.comparisons
  truth : ∀ leaf, c.truthUnder leaf = c'.truthUnder leaf
  sortKeys : c.sortKeys = c'.sortKeys
  window : c.window = c'.window

namespace EntityDescriptor

variable {e : EntityDescriptor} {c c' : Criteria}

/-- The fault of a comparison, if it has one. -/
def faultOf (e : EntityDescriptor) (c : Comparison) : Option QueryError :=
  error? (e.conditionOf (.comparison c))

/-- The condition of a comparison; any expression if it has a fault. -/
def leafOf (e : EntityDescriptor) (c : Comparison) : Expr :=
  match e.conditionOf (.comparison c) with
  | .error _ => .countRows
  | .ok x => x

/-- The error of a predicate is that of its first comparison with a fault. -/
theorem error?_conditionOf {p : Predicate} :
    error? (e.conditionOf p) = p.comparisons.findSome? e.faultOf := by
  induction p with
  | comparison c => simp [Predicate.comparisons, faultOf]
  | and l r ihl ihr =>
    rw [Predicate.comparisons, List.findSome?_append, ← ihl, ← ihr, conditionOf]
    cases e.conditionOf l <;> cases e.conditionOf r <;> rfl
  | or l r ihl ihr =>
    rw [Predicate.comparisons, List.findSome?_append, ← ihl, ← ihr, conditionOf]
    cases e.conditionOf l <;> cases e.conditionOf r <;> rfl

theorem error?_conditionOf? :
    error? (e.conditionOf? c.predicate) = c.comparisons.findSome? e.faultOf := by
  rw [Criteria.comparisons]
  cases c.predicate with
  | none => rfl
  | some p =>
    show error? ((e.conditionOf p).map some) = _
    rw [← error?_conditionOf]
    cases e.conditionOf p <;> rfl

/-- The condition of a test is a leaf. -/
theorem truthUnder_testCondition {b : PropertyBinding} {t : Test} {x : Expr}
    (h : testCondition b t = .ok x) (leaf : Expr → Truth) : x.truthUnder leaf = leaf x := by
  cases t with
  | compare op v =>
    obtain ⟨-, p, -, rfl⟩ := testCondition_compare.1 h
    rfl
  | isIn first rest =>
    obtain ⟨params, -, rfl⟩ := testCondition_isIn.1 h
    rfl
  | isNull =>
    cases h
    rfl
  | isNotNull =>
    cases h
    rfl

/-- A condition is as true as its predicate, its leaves standing for the comparisons. -/
theorem truthUnder_conditionOf {p : Predicate} {x : Expr} (h : e.conditionOf p = .ok x)
    (leaf : Expr → Truth) : x.truthUnder leaf = p.truthUnder fun c => leaf (e.leafOf c) := by
  induction p generalizing x with
  | comparison c =>
    obtain ⟨b, -, ht⟩ := conditionOf_comparison.1 h
    rw [truthUnder_testCondition ht, Predicate.truthUnder, leafOf, h]
  | and l r ihl ihr =>
    obtain ⟨y, z, hy, hz, rfl⟩ := conditionOf_and.1 h
    rw [Expr.truthUnder, Predicate.truthUnder, ihl hy, ihr hz]
  | or l r ihl ihr =>
    obtain ⟨y, z, hy, hz, rfl⟩ := conditionOf_or.1 h
    rw [Expr.truthUnder, Predicate.truthUnder, ihl hy, ihr hz]

theorem truthUnder_conditionOf? {condition : Option Expr}
    (h : e.conditionOf? c.predicate = .ok condition) (leaf : Expr → Truth) :
    condition.elim .yes (Expr.truthUnder leaf) = c.truthUnder fun c => leaf (e.leafOf c) := by
  rw [Criteria.truthUnder]
  cases hp : c.predicate with
  | none =>
    rw [hp] at h
    cases h
    rfl
  | some p =>
    rw [hp] at h
    obtain ⟨x, hx, rfl⟩ := conditionOf?_some.1 h
    exact truthUnder_conditionOf hx leaf

/-- The predicate fails before the sort keys do. -/
theorem error?_select :
    error? (e.select c) =
      (c.comparisons.findSome? e.faultOf).or (error? (e.orderingOf c.sortKeys)) := by
  rw [← error?_conditionOf?, select, condition?_eq]
  cases e.conditionOf? c.predicate with
  | error err => rfl
  | ok condition =>
    simp only [Except.map, ordering_eq]
    cases e.orderingOf c.sortKeys <;> rfl

theorem converts_rightUnique : Relator.RightUnique e.Converts := by
  rintro compared p q ⟨b, hb, hp⟩ ⟨b', hb', hq⟩
  rw [hb] at hb'
  cases hb'
  rw [hp] at hq
  exact Except.ok.inj hq

/-- Criteria that select alike become statements that select alike, or fail alike. -/
theorem select_alike (h : c.SameEffect c') :
    Alike Select.SameEffect (e.select c) (e.select c') := by
  refine .of_error? ?_ ?_
  · rw [error?_select, error?_select, h.comparisons, h.sortKeys]
  · intro s s' hs hs'
    have hproperties : c.referencedProperties = c'.referencedProperties := by
      rw [Criteria.referencedProperties, Criteria.referencedProperties, h.comparisons, h.sortKeys]
    -- Both conditions compare the same values in the same order, and each has one parameter.
    have hparams : s.params = s'.params := by
      have hcompared := select_params hs
      rw [Criteria.compared, h.comparisons] at hcompared
      exact List.right_unique_forall₂' converts_rightUnique hcompared (select_params hs')
    obtain ⟨condition, ordering, hcondition, hordering, rfl⟩ := select_eq_ok.1 hs
    obtain ⟨condition', ordering', hcondition', hordering', rfl⟩ := select_eq_ok.1 hs'
    constructor
    case outputs | source => rfl
    case joins => exact congrArg (e.mentionAll · []) hproperties
    case truth =>
      intro leaf
      show condition.elim .yes (Expr.truthUnder leaf) = condition'.elim .yes (Expr.truthUnder leaf)
      rw [truthUnder_conditionOf? hcondition, truthUnder_conditionOf? hcondition', h.truth]
    case ordering =>
      rw [h.sortKeys, hordering'] at hordering
      exact (Except.ok.inj hordering).symm
    case window => exact h.window
    case params =>
      intro d
      rw [Select.params_eq, Select.params_eq, hparams]

end EntityDescriptor

/-- Criteria that select alike are translated alike, whatever entity they are about. -/
theorem Resolver.select_alike {c c' : Criteria} (h : c.SameEffect c') (r : Resolver)
    (entity : String) : Alike Select.SameEffect (r.select entity c) (r.select entity c') := by
  rw [select, select]
  cases r.descriptor entity with
  | error err => exact .error
  | ok e => exact EntityDescriptor.select_alike h

-- ════════════════════════════════════════════════════════════════════════
-- Combined criteria
-- ════════════════════════════════════════════════════════════════════════

namespace Criteria

variable {a b c : Criteria} {leaf : Comparison → Truth}

theorem truthUnder_and :
    (a.and b).truthUnder leaf = (a.truthUnder leaf).and (b.truthUnder leaf) := by
  rcases a with ⟨_ | p, _, _⟩ <;> rcases b with ⟨_ | q, _, _⟩ <;>
    simp [Criteria.and, merge, truthUnder, Predicate.truthUnder]

theorem truthUnder_or :
    (a.or b).truthUnder leaf = (a.truthUnder leaf).or (b.truthUnder leaf) := by
  rcases a with ⟨_ | p, _, _⟩ <;> rcases b with ⟨_ | q, _, _⟩ <;>
    simp [Criteria.or, merge, truthUnder, Predicate.truthUnder]

theorem comparisons_and : (a.and b).comparisons = a.comparisons ++ b.comparisons := by
  rcases a with ⟨_ | p, _, _⟩ <;> rcases b with ⟨_ | q, _, _⟩ <;>
    simp [Criteria.and, merge, comparisons, Predicate.comparisons]

/-- A side that matches everything takes the comparisons of the other side with it. -/
theorem comparisons_or :
    (a.or b).comparisons =
      if a.predicate.isSome ∧ b.predicate.isSome then a.comparisons ++ b.comparisons else [] := by
  rcases a with ⟨_ | p, _, _⟩ <;> rcases b with ⟨_ | q, _, _⟩ <;>
    simp [Criteria.or, merge, comparisons, Predicate.comparisons]

theorem isSome_or :
    (a.or b).predicate.isSome = (a.predicate.isSome && b.predicate.isSome) := by
  rcases a with ⟨_ | p, _, _⟩ <;> rcases b with ⟨_ | q, _, _⟩ <;> rfl

theorem matchAll_and : matchAll.and a = a := by
  rcases a with ⟨predicate, sortKeys, _ | window⟩ <;> rfl

theorem and_matchAll : a.and matchAll = a := by
  rcases a with ⟨_ | predicate, sortKeys, window⟩ <;> simp [Criteria.and, merge, matchAll]

theorem and_regrouped : ((a.and b).and c).SameEffect (a.and (b.and c)) where
  comparisons := by simp only [comparisons_and, List.append_assoc]
  truth leaf := by simp only [truthUnder_and, Truth.and_assoc]
  sortKeys := List.append_assoc _ _ _
  window := Option.or_assoc.symm

theorem or_regrouped : ((a.or b).or c).SameEffect (a.or (b.or c)) where
  comparisons := by
    simp only [comparisons_or, isSome_or]
    by_cases ha : a.predicate.isSome <;> by_cases hb : b.predicate.isSome <;>
      by_cases hc : c.predicate.isSome <;> simp [ha, hb, hc]
  truth leaf := by simp only [truthUnder_or, Truth.or_assoc]
  sortKeys := List.append_assoc _ _ _
  window := Option.or_assoc.symm

end Criteria

/-- Regrouped criteria are translated alike. Combined criteria mean what their parts mean
  together, criteria that match everything being neutral for `and`; they are ordered by
  the first and then by the second, and the second window takes precedence. -/
theorem Resolver.select_regrouped (r : Resolver) (entity : String) (a b c : Criteria) :
    (Alike Select.SameEffect (r.select entity ((a.and b).and c))
        (r.select entity (a.and (b.and c))) ∧
      Alike Select.SameEffect (r.select entity ((a.or b).or c))
        (r.select entity (a.or (b.or c)))) ∧
    (∀ leaf, (a.and b).truthUnder leaf = (a.truthUnder leaf).and (b.truthUnder leaf) ∧
      (a.or b).truthUnder leaf = (a.truthUnder leaf).or (b.truthUnder leaf)) ∧
    (Criteria.matchAll.and a = a ∧ a.and .matchAll = a) ∧
    ((a.and b).sortKeys = a.sortKeys ++ b.sortKeys ∧
      (a.or b).sortKeys = a.sortKeys ++ b.sortKeys) ∧
    (a.and b).window = b.window.or a.window ∧ (a.or b).window = b.window.or a.window := by
  refine ⟨⟨?_, ?_⟩, ?_, ⟨Criteria.matchAll_and, Criteria.and_matchAll⟩, ⟨rfl, rfl⟩, rfl, rfl⟩
  · exact select_alike Criteria.and_regrouped r entity
  · exact select_alike Criteria.or_regrouped r entity
  · intro leaf
    exact ⟨Criteria.truthUnder_and, Criteria.truthUnder_or⟩

end EntityQuery
