import Mathlib.Data.List.Forall2
import EntityQuery.Proofs.Rendering.Markers
import EntityQuery.Proofs.Translation.Parts
import EntityQuery.Storefront

/-!
# The parameters of a translated statement

The values compared by a predicate become the parameters of its statement, one
for one and in the order in which they stand in the predicate. Together with the
order of the markers this says which marker is bound to which value.

## Main definitions

- `Criteria.compared` — the compared values with their properties, in order
- `EntityDescriptor.Converts` — a parameter is what a compared value is stored as

## Main statements

- `Dialect.markers_bound` — the markers of a statement and what they are bound to
-/

namespace EntityQuery

open Sql Token

-- ════════════════════════════════════════════════════════════════════════
-- Compared values
-- ════════════════════════════════════════════════════════════════════════

/-- The values of a test, in order. -/
def Test.values : Test → List Value
  | .compare _ v => [v]
  | .isIn first rest => first :: rest
  | .isNull => []
  | .isNotNull => []

/-- The compared values with the property they are compared with, in order. -/
def Comparison.compared (c : Comparison) : List (String × Value) :=
  c.test.values.map fun v => (c.property, v)

/-- The compared values of a predicate, depth first. -/
def Predicate.compared (p : Predicate) : List (String × Value) :=
  p.comparisons.flatMap Comparison.compared

/-- The compared values of criteria, depth first. -/
def Criteria.compared (c : Criteria) : List (String × Value) :=
  c.comparisons.flatMap Comparison.compared

namespace EntityDescriptor

variable {e : EntityDescriptor} {b : PropertyBinding}

/-- A parameter is what a value compared with a property is stored as. -/
def Converts (e : EntityDescriptor) (compared : String × Value) (p : Param) : Prop :=
  ∃ b, e.binding compared.1 = .ok b ∧ b.param compared.2 = .ok p

/-- The parameters of a test are its values, converted one by one. -/
theorem testCondition_params {t : Test} {x : Expr} (h : testCondition b t = .ok x) :
    List.Forall₂ (fun v p => b.param v = .ok p) t.values x.params := by
  cases t with
  | compare op v =>
    obtain ⟨-, p, hp, rfl⟩ := testCondition_compare.1 h
    exact .cons hp .nil
  | isIn first rest =>
    obtain ⟨params, hparams, rfl⟩ := testCondition_isIn.1 h
    have hitems : itemParams (params.map Expr.param) = params := by
      rw [itemParams_eq, List.flatMap_map]
      exact List.flatMap_singleton' params
    show List.Forall₂ _ (first :: rest) (itemParams (params.map Expr.param))
    rw [hitems, ← List.forall₂_map_left_iff (R := (· = Except.ok ·)), hparams,
      List.forall₂_map_left_iff, List.forall₂_same]
    exact fun _ _ => rfl
  | isNull =>
    cases h
    exact .nil
  | isNotNull =>
    cases h
    exact .nil

/-- The parameters of a condition are the compared values, converted one by one. -/
theorem conditionOf_params {p : Predicate} {x : Expr} (h : e.conditionOf p = .ok x) :
    List.Forall₂ e.Converts p.compared x.params := by
  refine conditionOf_forall₂ (fun _ _ => rfl) (fun _ _ => rfl) ?_ h
  intro c b x hb ht
  have hvalues := (testCondition_params ht).imp (S := fun v => e.Converts (c.property, v))
    fun v p hp => ⟨b, hb, hp⟩
  rw [Comparison.compared, List.forall₂_map_left_iff]
  exact hvalues

/-- The parameters of an optional condition. -/
theorem conditionOf?_params {c : Criteria} {condition : Option Expr}
    (h : e.conditionOf? c.predicate = .ok condition) :
    List.Forall₂ e.Converts c.compared (condition.toList.flatMap Expr.params) :=
  conditionOf?_forall₂ (fun _ _ => conditionOf_params) h

theorem mentionAll_params {properties : List String} :
    (e.mentionAll properties []).flatMap (·.on.params) = [] := by
  rw [List.flatMap_eq_nil_iff]
  intro j hj
  obtain hj | ⟨table, joinColumn, rfl⟩ := mem_mentionAll hj
  · cases hj
  · rfl

theorem orderingOf_params {keys : List SortKey} {ordering : List OrderKey}
    (h : e.orderingOf keys = .ok ordering) : ordering.flatMap (·.target.params) = [] := by
  induction keys generalizing ordering with
  | nil =>
    cases h
    rfl
  | cons k rest ih =>
    obtain ⟨b, more, -, hmore, rfl⟩ := orderingOf_cons.1 h
    rw [List.flatMap_cons, ih hmore]
    rfl

theorem outputs_params : e.outputs.flatMap (·.expr.params) = [] := by
  rw [outputs, List.flatMap_map, List.flatMap_eq_nil_iff]
  exact fun _ _ => rfl

/-- All parameters of a selecting statement stand in its condition. -/
theorem params_of_select {c : Criteria} {s : Select} (h : e.select c = .ok s) :
    s.params = s.condition.toList.flatMap Expr.params := by
  obtain ⟨condition, ordering, -, ho, rfl⟩ := select_eq_ok.1 h
  rw [Select.params, outputs_params, mentionAll_params, orderingOf_params ho, List.append_nil]
  rfl

/-- All parameters of a counting statement stand in its condition. -/
theorem params_of_countSelect {c : Criteria} {s : Select} (h : e.countSelect c = .ok s) :
    s.params = s.condition.toList.flatMap Expr.params := by
  obtain ⟨-, condition, -, rfl⟩ := countSelect_eq_ok.1 h
  rw [Select.params, mentionAll_params]
  exact List.append_nil _

/-- The parameters of a selecting statement are the compared values. -/
theorem select_params {c : Criteria} {s : Select} (h : e.select c = .ok s) :
    List.Forall₂ e.Converts c.compared s.params := by
  rw [params_of_select h]
  obtain ⟨condition, ordering, hc, -, rfl⟩ := select_eq_ok.1 h
  exact conditionOf?_params hc

/-- The parameters of a counting statement are the compared values. -/
theorem countSelect_params {c : Criteria} {s : Select} (h : e.countSelect c = .ok s) :
    List.Forall₂ e.Converts c.compared s.params := by
  rw [params_of_countSelect h]
  obtain ⟨-, condition, hc, rfl⟩ := countSelect_eq_ok.1 h
  exact conditionOf?_params hc

end EntityDescriptor

/-- Markers and parameters line up. Scanning a rendered statement finds one marker
  for each parameter of its tree, numbered in order. The statements made from
  criteria bind their markers to the compared values, in the order in which these
  stand in the predicate, each as the column of its property stores it. -/
theorem Dialect.markers_bound (d : Dialect) :
    (∀ s : Select, (s.render d).Marked d ∧ (s.render d).params = s.params) ∧
      ∀ (r : Resolver) (entity : String) (c : Criteria) (s : Statement),
        r.statement d entity c = .ok s ∨ r.countStatement d entity c = .ok s →
          s.Marked d ∧ ∃ e, r.descriptor entity = .ok e ∧
            List.Forall₂ e.Converts c.compared s.params := by
  refine ⟨fun s => ⟨Select.marked_render, Select.params_eq⟩, ?_⟩
  rintro r entity c s (hs | hs)
  · obtain ⟨tree, htree, rfl⟩ := Resolver.statement_eq_ok.1 hs
    obtain ⟨e, he, hselect⟩ := Resolver.select_eq_ok.1 htree
    refine ⟨Select.marked_render, e, he, ?_⟩
    rw [Select.params_eq]
    exact EntityDescriptor.select_params hselect
  · obtain ⟨tree, htree, rfl⟩ := Resolver.countStatement_eq_ok.1 hs
    obtain ⟨e, he, hselect⟩ := Resolver.countSelect_eq_ok.1 htree
    refine ⟨Select.marked_render, e, he, ?_⟩
    rw [Select.params_eq]
    exact EntityDescriptor.countSelect_params hselect

namespace Storefront

/-- Customers by two addresses that look like markers, or by their notes. -/
def byAddressOrNote : Criteria where
  predicate := some (.or (.comparison ⟨"email", .isIn (.text "?") [.text "$1"]⟩)
    (.comparison ⟨"note", .compare .like (.text "%")⟩))

/-- The three values are bound to the three markers of the statement. -/
theorem markers_byAddressOrNote :
    ∃ r s, Registry.ofMapping customerMapping = .ok r ∧
      r.resolver.statement .postgresql "Customer" byAddressOrNote = .ok s ∧
      s.Marked .postgresql ∧
      s.params = [⟨.text "?", .text⟩, ⟨.text "$1", .text⟩, ⟨.text "%", .text⟩] ∧
      ∃ e, r.resolver.descriptor "Customer" = .ok e ∧
        List.Forall₂ e.Converts
          [("email", .text "?"), ("email", .text "$1"), ("note", .text "%")] s.params := by
  obtain ⟨r, hr, s, hs, hparams⟩ : ∃ r, Registry.ofMapping customerMapping = .ok r ∧
      ∃ s, r.resolver.statement .postgresql "Customer" byAddressOrNote = .ok s ∧
        s.params = [⟨.text "?", .text⟩, ⟨.text "$1", .text⟩, ⟨.text "%", .text⟩] :=
    ⟨_, rfl, _, rfl, rfl⟩
  obtain ⟨hmarked, e, he, hconverts⟩ :=
    (Dialect.markers_bound .postgresql).2 r.resolver "Customer" byAddressOrNote s (.inl hs)
  exact ⟨r, s, hr, hs, hmarked, hparams, e, he, hconverts⟩

end Storefront

end EntityQuery
