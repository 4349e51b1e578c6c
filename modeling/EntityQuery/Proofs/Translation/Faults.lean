import EntityQuery.Proofs.Translation.Counting
import EntityQuery.Proofs.Translation.Grouping

/-!
# Which fault is reported

Criteria are translated completely or not at all. The error says what is wrong with the
first faulty item in the order of mention: the comparisons depth first, then the sort keys.
A counting translation looks every property up beforehand, so an unmapped property that is
mentioned late comes before any other fault.

## Main definitions

- `FirstFault` — an error is that of the first faulty item of a list
- `Criteria.items` — what criteria mention, in order
- `EntityDescriptor.Unmapped`, `PropertyBinding.Rejects` — properties and values with a fault
- `EntityDescriptor.Fault` — the fault of a comparison or a sort key

## Main statements

- `EntityDescriptor.select_eq_error_iff`, `EntityDescriptor.countSelect_eq_error_iff` — the
  errors of the two translations
- `Registry.select_reports_first` — both of them for the entities of a registry
-/

namespace EntityQuery

open Sql

/-- The error is that of the first item of a list that has a fault. -/
def FirstFault {α ε : Type} (Fault : α → ε → Prop) (items : List α) (err : ε) : Prop :=
  ∃ before item after, items = before ++ item :: after ∧ Fault item err ∧
    ∀ earlier ∈ before, ∀ err', ¬ Fault earlier err'

/-- What criteria mention: a comparison or a sort key. -/
inductive Criteria.Item
  | comparison (comparison : Comparison)
  | sortKey (key : SortKey)

/-- The property that is compared or sorted by. -/
def Criteria.Item.property : Criteria.Item → String
  | .comparison c => c.property
  | .sortKey k => k.property

/-- What criteria mention: the comparisons depth first, then the sort keys. -/
def Criteria.items (c : Criteria) : List Criteria.Item :=
  c.comparisons.map .comparison ++ c.sortKeys.map .sortKey

/-- A value has no stored form that fits the column of a property. -/
def PropertyBinding.Rejects (b : PropertyBinding) (v : Value) (err : PredicateError) : Prop :=
  v.stored? b.column.type b.converter = none ∧
    err = .unconvertible b.property v b.column.type b.converter

/-- A property has no binding. -/
def EntityDescriptor.Unmapped (e : EntityDescriptor) (property : String) (err : QueryError) :
    Prop :=
  (∀ b ∈ e.bindings, b.property ≠ property) ∧
    err = .lookup (.unmappedProperty e.name property)

/-- What is wrong with a comparison or a sort key. Of several things that are wrong with a
  comparison, a property that is not mapped comes before a pattern for a column that is not
  text, and this before the first value that cannot be stored. -/
inductive EntityDescriptor.Fault (e : EntityDescriptor) : Criteria.Item → QueryError → Prop
  | unmapped {item err} (h : e.Unmapped item.property err) : Fault e item err
  | pattern {c b v} (hb : e.binding c.property = .ok b) (htest : c.test = .compare .like v)
    (h : b.column.type.supportsPatterns = false) :
    Fault e (.comparison c) (.invalidPredicate (.patternOnNonText c.property b.column.type))
  | value {c b err} (hb : e.binding c.property = .ok b)
    (hpattern : ∀ v, c.test = .compare .like v → b.column.type.supportsPatterns = true)
    (h : FirstFault b.Rejects c.test.values err) :
    Fault e (.comparison c) (.invalidPredicate err)

-- ════════════════════════════════════════════════════════════════════════
-- The error of a walk
-- ════════════════════════════════════════════════════════════════════════

section Walk

variable {α β ε ε' : Type} {x : Except ε α} {err : ε}

@[simp]
theorem error?_eq_some_iff : error? x = some err ↔ x = .error err := by
  cases x <;> simp [error?]

@[simp]
theorem error?_map {f : α → β} : error? (x.map f) = error? x := by
  cases x <;> rfl

@[simp]
theorem error?_mapError {f : ε → ε'} : error? (x.mapError f) = (error? x).map f := by
  cases x <;> rfl

/-- A walk that stops at the first error reports the first fault. -/
theorem findSome?_eq_some_iff_firstFault {Fault : α → ε → Prop} {fault? : α → Option ε}
    (hfault : ∀ a err, fault? a = some err ↔ Fault a err) {items : List α} :
    items.findSome? fault? = some err ↔ FirstFault Fault items err := by
  have hnone : ∀ a, fault? a = none ↔ ∀ err, ¬ Fault a err := by
    intro a
    simp only [← hfault, Option.eq_none_iff_forall_ne_some, ne_eq]
  rw [List.findSome?_eq_some_iff, FirstFault]
  simp only [hfault, hnone]

end Walk

theorem FirstFault.exists_iff {α ε : Type} {Fault : α → ε → Prop} {items : List α} :
    (∃ err, FirstFault Fault items err) ↔ ∃ item ∈ items, ∃ err, Fault item err := by
  constructor
  · rintro ⟨err, before, item, after, rfl, hfault, -⟩
    exact ⟨item, by simp, err, hfault⟩
  · intro hfaulty
    induction items with
    | nil => simp at hfaulty
    | cons a rest ih =>
      by_cases ha : ∃ err, Fault a err
      · obtain ⟨err, hfault⟩ := ha
        exact ⟨err, [], a, rest, rfl, hfault, by simp⟩
      · have hrest : ∃ item ∈ rest, ∃ err, Fault item err := by simpa [ha] using hfaulty
        obtain ⟨err, before, item, after, rfl, hfault, hbefore⟩ := ih hrest
        exact ⟨err, a :: before, item, after, rfl, hfault,
          List.forall_mem_cons.2 ⟨not_exists.1 ha, hbefore⟩⟩

@[simp]
theorem firstFault_nil {α ε : Type} {Fault : α → ε → Prop} {err : ε} :
    ¬ FirstFault Fault [] err := by
  simp [FirstFault]

@[simp]
theorem firstFault_singleton {α ε : Type} {Fault : α → ε → Prop} {a : α} {err : ε} :
    FirstFault Fault [a] err ↔ Fault a err := by
  constructor
  · rintro ⟨before, item, after, hsplit, hfault, -⟩
    obtain ⟨-, rfl, -⟩ : before = [] ∧ item = a ∧ after = [] := by
      simpa [List.singleton_eq_append_iff] using hsplit
    exact hfault
  · intro hfault
    exact ⟨[], a, [], rfl, hfault, by simp⟩

-- ════════════════════════════════════════════════════════════════════════
-- The faults of single items
-- ════════════════════════════════════════════════════════════════════════

theorem PropertyBinding.param_eq_error_iff {b : PropertyBinding} {v : Value}
    {err : PredicateError} : b.param v = .error err ↔ b.Rejects v err := by
  rw [param, Rejects]
  cases v.stored? b.column.type b.converter <;> simp [eq_comm]

namespace EntityDescriptor

variable {e : EntityDescriptor} {b : PropertyBinding} {c : Criteria}

theorem bindingOf_eq_error_iff {property : String} {err : QueryError} :
    e.bindingOf property = .error err ↔ e.Unmapped property err := by
  rw [bindingOf, binding, Unmapped]
  cases hfound : e.bindings.find? (·.property == property) with
  | none =>
    have hall : ∀ b ∈ e.bindings, b.property ≠ property := by simpa using hfound
    simpa [Except.mapError, eq_comm] using fun _ => hall
  | some b =>
    have hmapped : ¬ ∀ b ∈ e.bindings, b.property ≠ property := by
      intro hall
      exact hall b (List.mem_of_find?_eq_some hfound) (by simpa using List.find?_some hfound)
    simp [Except.mapError, hmapped]

theorem error?_paramsOf {values : List Value} :
    error? (paramsOf b values) = values.findSome? fun v => error? (b.param v) := by
  induction values with
  | nil => rfl
  | cons v rest ih =>
    rw [paramsOf, List.findSome?_cons]
    cases b.param v with
    | error err => rfl
    | ok p => rw [error?_map, ih]; rfl

theorem paramsOf_eq_error_iff {values : List Value} {err : PredicateError} :
    paramsOf b values = .error err ↔ FirstFault b.Rejects values err := by
  rw [← error?_eq_some_iff, error?_paramsOf]
  refine findSome?_eq_some_iff_firstFault fun v err => ?_
  rw [error?_eq_some_iff, PropertyBinding.param_eq_error_iff]

theorem testCondition_eq_error_iff {t : Test} {err : PredicateError} :
    testCondition b t = .error err ↔
      (∃ v, t = .compare .like v ∧ b.column.type.supportsPatterns = false ∧
        err = .patternOnNonText b.property b.column.type) ∨
      (∀ v, t = .compare .like v → b.column.type.supportsPatterns = true) ∧
        FirstFault b.Rejects t.values err := by
  cases t with
  | compare op v =>
    rw [testCondition]
    by_cases hlike : op = .like ∧ b.column.type.supportsPatterns = false
    · simp [hlike, Test.values, eq_comm]
    · have hguard : op = .like → b.column.type.supportsPatterns = true := by simpa using hlike
      rw [if_neg (by simpa using hlike), ← error?_eq_some_iff, error?_map, error?_eq_some_iff,
        PropertyBinding.param_eq_error_iff]
      constructor
      · intro hrejects
        refine .inr ⟨?_, firstFault_singleton.2 hrejects⟩
        rintro v' ⟨⟩
        exact hguard rfl
      · rintro (⟨v', ⟨⟩, hnone, -⟩ | ⟨-, hfirst⟩)
        · simp [hguard rfl] at hnone
        · exact firstFault_singleton.1 hfirst
  | isIn first rest =>
    rw [testCondition, ← error?_eq_some_iff, error?_map, error?_eq_some_iff, paramsOf_eq_error_iff]
    simp [Test.values]
  | isNull => simp [testCondition, Test.values]
  | isNotNull => simp [testCondition, Test.values]

theorem faultOf_eq_some_iff {c : Comparison} {err : QueryError} :
    e.faultOf c = some err ↔ e.Fault (.comparison c) err := by
  rw [faultOf, error?_eq_some_iff, conditionOf]
  cases hb : e.bindingOf c.property with
  | error err' =>
    have hunmapped : e.Unmapped c.property err' := bindingOf_eq_error_iff.1 hb
    constructor
    · rintro ⟨⟩
      exact .unmapped hunmapped
    · intro h
      cases h with
      | unmapped h => rw [h.2, hunmapped.2]; rfl
      | pattern hbinding _ _ => cases hb.symm.trans (bindingOf_eq_ok.2 hbinding)
      | value hbinding _ _ => cases hb.symm.trans (bindingOf_eq_ok.2 hbinding)
  | ok b =>
    rw [bindingOf_eq_ok] at hb
    obtain ⟨hmem, hproperty⟩ := mem_of_binding hb
    rw [← error?_eq_some_iff, error?_mapError, Option.map_eq_some_iff]
    simp only [error?_eq_some_iff, testCondition_eq_error_iff]
    constructor
    · rintro ⟨cause, ⟨v, htest, hnone, rfl⟩ | ⟨hpattern, hfirst⟩, rfl⟩
      · rw [hproperty]
        exact .pattern hb htest hnone
      · exact .value hb hpattern hfirst
    · intro h
      cases h with
      | unmapped h => exact absurd hproperty (h.1 b hmem)
      | pattern hbinding htest hnone =>
        obtain rfl : b = _ := Except.ok.inj (hb.symm.trans hbinding)
        exact ⟨_, .inl ⟨_, htest, hnone, rfl⟩, by rw [hproperty]⟩
      | value hbinding hpattern hfirst =>
        obtain rfl : b = _ := Except.ok.inj (hb.symm.trans hbinding)
        exact ⟨_, .inr ⟨hpattern, hfirst⟩, rfl⟩

/-- The fault of a comparison or a sort key, if it has one. -/
def itemFault? (e : EntityDescriptor) : Criteria.Item → Option QueryError
  | .comparison c => e.faultOf c
  | .sortKey k => error? (e.bindingOf k.property)

theorem itemFault?_eq_some_iff {item : Criteria.Item} {err : QueryError} :
    e.itemFault? item = some err ↔ e.Fault item err := by
  cases item with
  | comparison c => exact faultOf_eq_some_iff
  | sortKey k =>
    rw [itemFault?, error?_eq_some_iff, bindingOf_eq_error_iff]
    constructor
    · intro h
      exact .unmapped h
    · rintro ⟨h⟩
      exact h

-- ════════════════════════════════════════════════════════════════════════
-- The errors of translations
-- ════════════════════════════════════════════════════════════════════════

theorem error?_orderingOf {keys : List SortKey} :
    error? (e.orderingOf keys) = keys.findSome? fun k => error? (e.bindingOf k.property) := by
  induction keys with
  | nil => rfl
  | cons k rest ih =>
    rw [orderingOf, List.findSome?_cons]
    cases e.bindingOf k.property with
    | error err => rfl
    | ok b => rw [error?_map, ih]; rfl

theorem error?_checkMapped {properties : List String} :
    error? (e.checkMapped properties) =
      properties.findSome? fun property => error? (e.bindingOf property) := by
  induction properties with
  | nil => rfl
  | cons property rest ih =>
    rw [checkMapped, List.findSome?_cons]
    cases e.bindingOf property with
    | error err => rfl
    | ok b => exact ih

/-- A selecting translation fails with the fault of the first faulty item. -/
theorem select_eq_error_iff {err : QueryError} :
    e.select c = .error err ↔ FirstFault e.Fault c.items err := by
  have hitems : error? (e.select c) = c.items.findSome? e.itemFault? := by
    rw [error?_select, error?_orderingOf, Criteria.items, List.findSome?_append,
      List.findSome?_map, List.findSome?_map]
    rfl
  rw [← error?_eq_some_iff, hitems]
  exact findSome?_eq_some_iff_firstFault fun _ _ => itemFault?_eq_some_iff

theorem checkMapped_eq_error_iff {properties : List String} {err : QueryError} :
    e.checkMapped properties = .error err ↔ FirstFault e.Unmapped properties err := by
  rw [← error?_eq_some_iff, error?_checkMapped]
  refine findSome?_eq_some_iff_firstFault fun property err => ?_
  rw [error?_eq_some_iff, bindingOf_eq_error_iff]

theorem error?_countSelect :
    error? (e.countSelect c) =
      (error? (e.checkMapped c.referencedProperties)).or (c.comparisons.findSome? e.faultOf) := by
  rw [← error?_conditionOf?, countSelect, condition?_eq]
  cases e.checkMapped c.referencedProperties with
  | error err => rfl
  | ok _ => cases e.conditionOf? c.predicate <;> rfl

/-- A counting translation fails with the first unmapped property, wherever it is mentioned,
  and otherwise like the selecting translation. -/
theorem countSelect_eq_error_iff {err : QueryError} :
    e.countSelect c = .error err ↔
      FirstFault e.Unmapped c.referencedProperties err ∨
      (∀ property ∈ c.referencedProperties, ∃ b, e.binding property = .ok b) ∧
        e.select c = .error err := by
  rw [← checkMapped_eq_error_iff, ← checkMapped_eq_ok_iff,
    ← error?_eq_some_iff (x := e.countSelect c), ← error?_eq_some_iff (x := e.select c),
    error?_countSelect, error?_select]
  cases hmapped : e.checkMapped c.referencedProperties with
  | error err' => simp [error?]
  | ok _ =>
    -- Where every property is mapped, the sort keys have no fault.
    have hkeys : ∀ property ∈ c.sortKeys.map SortKey.property, ∃ b, e.binding property = .ok b :=
      fun property hproperty =>
        checkMapped_eq_ok_iff.1 hmapped property (List.mem_append_right _ hproperty)
    obtain ⟨ordering, hordering⟩ := exists_orderingOf_iff.2 hkeys
    simp [hordering, error?]

theorem exists_select_iff :
    (∃ s, e.select c = .ok s) ↔ ∀ item ∈ c.items, ∀ err, ¬ e.Fault item err := by
  have hfails : (∃ err, e.select c = .error err) ↔ ∃ item ∈ c.items, ∃ err, e.Fault item err := by
    simp only [select_eq_error_iff, FirstFault.exists_iff]
  have hall : (∀ item ∈ c.items, ∀ err, ¬ e.Fault item err) ↔
      ¬ ∃ item ∈ c.items, ∃ err, e.Fault item err := by
    simp only [not_exists, not_and]
  rw [hall, ← hfails]
  cases e.select c <;> simp

end EntityDescriptor

theorem Registry.name_of_find? {m : Mapping} {r : Registry} (hr : ofMapping m = .ok r)
    {entity : String} {e : EntityDescriptor} (he : r.entities.find? entity = some e) :
    e.name = entity := by
  obtain ⟨em, -, hmade⟩ := exists_mapping hr he
  exact (EntityDescriptor.ofMapping_eq_ok_iff.1 hmade).2.name

/-- Translations report the first fault and are made completely or not at all. Over an
  unknown entity both fail. Over a registered entity a selecting statement is made exactly
  if nothing mentioned is faulty, and fails with the fault of the first faulty item; a
  counting statement fails with the first property that is not mapped, and otherwise with the
  error of the selecting one. -/
theorem Registry.select_reports_first {m : Mapping} {r : Registry}
    (hr : Registry.ofMapping m = .ok r) (entity : String) (c : Criteria) :
    (r.entities.find? entity = none →
      r.resolver.select entity c = .error (.lookup (.unknownEntity entity)) ∧
      r.resolver.countSelect entity c = .error (.lookup (.unknownEntity entity))) ∧
    ∀ e, r.entities.find? entity = some e → e.name = entity ∧
      ((∃ s, r.resolver.select entity c = .ok s) ↔
        ∀ item ∈ c.items, ∀ err, ¬ e.Fault item err) ∧
      ∀ err,
        (r.resolver.select entity c = .error err ↔ FirstFault e.Fault c.items err) ∧
        (r.resolver.countSelect entity c = .error err ↔
          FirstFault e.Unmapped c.referencedProperties err ∨
          (∀ property ∈ c.referencedProperties, ∃ b, e.binding property = .ok b) ∧
            r.resolver.select entity c = .error err) := by
  constructor
  · intro hunknown
    have hdescriptor : r.resolver.descriptor entity = .error (.unknownEntity entity) := by
      simp only [resolver, hunknown]
    rw [Resolver.select, Resolver.countSelect, hdescriptor]
    exact ⟨rfl, rfl⟩
  · intro e he
    have hdescriptor : r.resolver.descriptor entity = .ok e := descriptor_eq_ok_iff.2 he
    rw [Resolver.select_of_descriptor hdescriptor, Resolver.countSelect_of_descriptor hdescriptor]
    exact ⟨name_of_find? hr he, EntityDescriptor.exists_select_iff, fun err =>
      ⟨EntityDescriptor.select_eq_error_iff, EntityDescriptor.countSelect_eq_error_iff⟩⟩

namespace Storefront

/-- Customers by a number where a truth value is stored, by a pattern for a key, and in the
  order of a property that is not mapped. -/
def faulty : Criteria where
  predicate := some (.or
    (.and (.comparison ⟨"email", .isNotNull⟩)
      (.comparison ⟨"newsletter", .isIn (.bool true) [.integer 1]⟩))
    (.comparison ⟨"key", .compare .like (.text "0%")⟩))
  sortKeys := [⟨"phone", .ascending⟩]

/-- Selecting reports the number, which comes first; counting the property, which is looked
  up beforehand. -/
theorem select_reports_first_faulty :
    ∃ r e, Registry.ofMapping customerMapping = .ok r ∧
      r.entities.find? "Customer" = some e ∧
      FirstFault e.Fault faulty.items
        (.invalidPredicate (.unconvertible "newsletter" (.integer 1) .integer .booleanAsInteger)) ∧
      FirstFault e.Unmapped faulty.referencedProperties
        (.lookup (.unmappedProperty "Customer" "phone")) := by
  obtain ⟨r, hr, e, he, hselect, hcount⟩ : ∃ r, Registry.ofMapping customerMapping = .ok r ∧
      ∃ e, r.entities.find? "Customer" = some e ∧
        r.resolver.select "Customer" faulty = .error
          (.invalidPredicate
            (.unconvertible "newsletter" (.integer 1) .integer .booleanAsInteger)) ∧
        r.resolver.countSelect "Customer" faulty =
          .error (.lookup (.unmappedProperty "Customer" "phone")) :=
    ⟨_, rfl, _, rfl, rfl, rfl⟩
  obtain ⟨-, -, herrors⟩ := (Registry.select_reports_first hr "Customer" faulty).2 e he
  refine ⟨r, e, hr, he, ((herrors _).1).1 hselect, ?_⟩
  rcases ((herrors _).2).1 hcount with hfirst | ⟨-, hsame⟩
  · exact hfirst
  · cases hselect.symm.trans hsame

end Storefront

end EntityQuery
