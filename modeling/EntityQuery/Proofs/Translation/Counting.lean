import EntityQuery.Proofs.Translation.Meaning
import EntityQuery.Proofs.Translation.Parameters
import EntityQuery.Proofs.Translation.Scope

/-!
# Counting agrees with selecting

A counting statement is made on a path of its own: it looks every mentioned
property up before it walks the predicate, and it joins nothing for sort keys.
All the same it is made from the same criteria as the selecting statement, keeps
the same rows and counts what the selecting statement returns without a window.

## Main definitions

- `Criteria.unordered` — criteria without sort keys and window
- `Sql.Select.countedRows?` — the number of rows that a statement counts

## Main statements

- `EntityDescriptor.exists_countSelect_iff` — both statements are made or none is
- `Resolver.countSelect_agrees` — the parts that both statements have in common
- `Registry.countedRows?_eq_length` — the count is the number of rows selected
-/

namespace EntityQuery

open Sql

/-- Criteria without sort keys and window. -/
def Criteria.unordered (c : Criteria) : Criteria :=
  { predicate := c.predicate }

theorem Criteria.referencedProperties_unordered {c : Criteria} :
    c.unordered.referencedProperties = c.comparisons.map Comparison.property :=
  List.append_nil _

namespace EntityDescriptor

variable {e : EntityDescriptor} {c : Criteria}

-- ════════════════════════════════════════════════════════════════════════
-- Acceptance
-- ════════════════════════════════════════════════════════════════════════

theorem checkMapped_eq_ok_iff {properties : List String} :
    e.checkMapped properties = .ok () ↔
      ∀ property ∈ properties, ∃ b, e.binding property = .ok b := by
  induction properties with
  | nil => simp [checkMapped]
  | cons property rest ih =>
    rw [checkMapped, List.forall_mem_cons]
    cases hb : e.bindingOf property with
    | error err =>
      have hunmapped : ¬ ∃ b, e.binding property = .ok b := by
        rintro ⟨b, hbinding⟩
        rw [bindingOf_eq_ok.2 hbinding] at hb
        cases hb
      simp [hunmapped]
    | ok b =>
      have hmapped : ∃ b, e.binding property = .ok b := ⟨b, bindingOf_eq_ok.1 hb⟩
      simp [ih, hmapped]

theorem exists_orderingOf_iff {keys : List SortKey} :
    (∃ ordering, e.orderingOf keys = .ok ordering) ↔
      ∀ property ∈ keys.map SortKey.property, ∃ b, e.binding property = .ok b := by
  constructor
  · rintro ⟨ordering, ho⟩ property hproperty
    obtain ⟨ref, -, b, hb, -⟩ := (exists_mem_of_forall₂ (orderingOf_reads ho)).1 property hproperty
    exact ⟨b, hb⟩
  · intro hmapped
    induction keys with
    | nil => exact ⟨[], rfl⟩
    | cons k rest ih =>
      rw [List.map_cons, List.forall_mem_cons] at hmapped
      obtain ⟨⟨b, hb⟩, hrest⟩ := hmapped
      obtain ⟨more, hmore⟩ := ih hrest
      exact ⟨_, orderingOf_cons.2 ⟨b, more, hb, hmore, rfl⟩⟩

/-- A counting statement is made exactly if a selecting one is. -/
theorem exists_countSelect_iff :
    (∃ t, e.countSelect c = .ok t) ↔ ∃ s, e.select c = .ok s := by
  constructor
  · rintro ⟨t, ht⟩
    obtain ⟨hmapped, condition, hc, -⟩ := countSelect_eq_ok.1 ht
    have hkeys : ∀ property ∈ c.sortKeys.map SortKey.property,
        ∃ b, e.binding property = .ok b := by
      intro property hproperty
      refine checkMapped_eq_ok_iff.1 hmapped property ?_
      exact List.mem_append_right _ hproperty
    obtain ⟨ordering, ho⟩ := exists_orderingOf_iff.2 hkeys
    exact ⟨_, select_eq_ok.2 ⟨condition, ordering, hc, ho, rfl⟩⟩
  · rintro ⟨s, hs⟩
    have hmapped : e.checkMapped c.referencedProperties = .ok () := by
      refine checkMapped_eq_ok_iff.2 fun property hproperty => ?_
      obtain ⟨ref, -, b, hb, -⟩ := (exists_mem_of_forall₂ (select_reads hs)).1 property hproperty
      exact ⟨b, hb⟩
    obtain ⟨condition, -, hc, -, -⟩ := select_eq_ok.1 hs
    exact ⟨_, countSelect_eq_ok.2 ⟨hmapped, condition, hc, rfl⟩⟩

-- ════════════════════════════════════════════════════════════════════════
-- Common parts
-- ════════════════════════════════════════════════════════════════════════

theorem prefix_mention {b : PropertyBinding} {joins : Joins} : joins <+: e.mention b joins := by
  rw [mention]
  split
  · exact List.prefix_refl _
  · split
    · exact List.prefix_refl _
    · exact List.prefix_append _ _

/-- Mentioning properties adds joins at the end. -/
theorem prefix_mentionAll {properties : List String} {joins : Joins} :
    joins <+: e.mentionAll properties joins := by
  induction properties generalizing joins with
  | nil => exact List.prefix_refl _
  | cons property rest ih =>
    rw [mentionAll]
    split
    · exact ih
    · exact prefix_mention.trans ih

/-- A counting statement is the selecting one without sort keys and window, apart
  from what it returns. -/
theorem select_unordered_of_countSelect {t : Select} (ht : e.countSelect c = .ok t) :
    e.select c.unordered = .ok { t with outputs := e.outputs } := by
  obtain ⟨-, condition, hc, rfl⟩ := countSelect_eq_ok.1 ht
  refine select_eq_ok.2 ⟨condition, [], hc, rfl, ?_⟩
  rw [Criteria.referencedProperties_unordered]
  rfl

end EntityDescriptor

/-- Counting agrees with selecting. A counting statement is made exactly if a
  selecting one is, and it differs only in what it returns, in having neither
  ordering nor window, and in lacking the joins that only sort keys need. -/
theorem Resolver.countSelect_agrees (r : Resolver) (entity : String) (c : Criteria) :
    ((∃ t, r.countSelect entity c = .ok t) ↔ ∃ s, r.select entity c = .ok s) ∧
    ∀ s t, r.select entity c = .ok s → r.countSelect entity c = .ok t →
      t.source = s.source ∧ t.condition = s.condition ∧ t.joins <+: s.joins ∧
      t.ordering = [] ∧ t.window = none ∧
      ∀ d : Dialect, (t.render d).params = (s.render d).params := by
  cases he : r.descriptor entity with
  | error err => simp [countSelect, select, he]
  | ok e =>
    rw [countSelect_of_descriptor he, select_of_descriptor he]
    refine ⟨EntityDescriptor.exists_countSelect_iff, fun s t hs ht => ?_⟩
    have hselected := EntityDescriptor.params_of_select hs
    have hcounted := EntityDescriptor.params_of_countSelect ht
    obtain ⟨condition, ordering, hc, -, rfl⟩ := EntityDescriptor.select_eq_ok.1 hs
    obtain ⟨-, condition', hc', rfl⟩ := EntityDescriptor.countSelect_eq_ok.1 ht
    obtain rfl : condition = condition' := Except.ok.inj (hc.symm.trans hc')
    refine ⟨rfl, rfl, ?_, rfl, rfl, fun d => ?_⟩
    · -- The predicate is walked first, so what the sort keys join comes last.
      rw [Criteria.referencedProperties, EntityDescriptor.mentionAll_append]
      exact EntityDescriptor.prefix_mentionAll
    · rw [Select.params_eq, Select.params_eq, hselected, hcounted]

namespace Storefront

/-- Counting customers by preferences and notes does without the notes. -/
theorem countSelect_byPreference :
    ∃ r s t, Registry.ofMapping customerMapping = .ok r ∧
      r.resolver.select "Customer" byPreference = .ok s ∧
      r.resolver.countSelect "Customer" byPreference = .ok t ∧
      s.joins.map Join.table = [⟨none, "customer_preferences"⟩, ⟨none, "customer_notes"⟩] ∧
      t.joins.map Join.table = [⟨none, "customer_preferences"⟩] ∧ t.joins <+: s.joins ∧
      t.condition = s.condition ∧ (t.render .mysql).params = (s.render .mysql).params := by
  obtain ⟨r, hr, s, hs, hselected, t, ht, hcounted⟩ :
      ∃ r, Registry.ofMapping customerMapping = .ok r ∧
        ∃ s, r.resolver.select "Customer" byPreference = .ok s ∧
          s.joins.map Join.table =
            [⟨none, "customer_preferences"⟩, ⟨none, "customer_notes"⟩] ∧
          ∃ t, r.resolver.countSelect "Customer" byPreference = .ok t ∧
            t.joins.map Join.table = [⟨none, "customer_preferences"⟩] :=
    ⟨_, rfl, _, rfl, rfl, _, rfl, rfl⟩
  obtain ⟨-, hcondition, hjoins, -, -, hparams⟩ :=
    (Resolver.countSelect_agrees r.resolver "Customer" byPreference).2 s t hs ht
  exact ⟨r, s, t, hr, hs, ht, hselected, hcounted, hjoins, hcondition, hparams .mysql⟩

end Storefront

-- ════════════════════════════════════════════════════════════════════════
-- Numbers of rows
-- ════════════════════════════════════════════════════════════════════════

variable {V : Type} [DecidableEq V]

/-- The number of rows that a statement counts: the combinations of rows that are
  joined and kept. -/
def Sql.Select.countedRows? (ops : Operators V) (db : Database V) (s : Select) : Option Nat :=
  (s.scopes? ops db).map List.length

namespace EntityDescriptor

variable {e : EntityDescriptor} {db : Database V} {c : Criteria}

/-- The number of entities that are asked for. -/
def matching (e : EntityDescriptor) (ops : Operators V) (db : Database V) (c : Criteria) : Nat :=
  (db e.primaryTable).countP fun row => c.truth? ops db e row = some .yes

/-- A selecting statement returns one row for each entity that is asked for. -/
theorem exists_results? (h : e.WellFormed) (hkeyed : ∀ x ∈ e.extensionTables, db.KeyedBy x)
    (ops : Operators V) {s : Select} (hs : e.select c = .ok s) :
    ∃ rows, s.results? ops db = some rows ∧ rows.length = e.matching ops db c := by
  obtain ⟨condition, ordering, hc, ho, rfl⟩ := select_eq_ok.1 hs
  choose keys _ hkeys using fun row => (exists_keys? h ho db row).1
  rw [Select.results?, scopes?_eq_some h hkeyed ops hc rfl rfl (mentionAll_eq h), Option.bind_some]
  refine ⟨_, mapM_map_eq_some fun row _ => resultRow?_eq_some h rfl ho db row (hkeys row), ?_⟩
  rw [List.length_map, matching, List.countP_eq_length_filter]

/-- A counting statement counts the entities that are asked for. -/
theorem countedRows?_eq_some (h : e.WellFormed) (hkeyed : ∀ x ∈ e.extensionTables, db.KeyedBy x)
    (ops : Operators V) {t : Select} (ht : e.countSelect c = .ok t) :
    t.countedRows? ops db = some (e.matching ops db c) := by
  -- What is kept does not depend on what is returned, so the criteria without sort keys tell it.
  obtain ⟨condition, ordering, hc, -, hselect⟩ := select_eq_ok.1 (select_unordered_of_countSelect ht)
  have hjoins := congrArg Select.joins hselect
  rw [mentionAll_eq h] at hjoins
  have hscopes := scopes?_eq_some h hkeyed ops hc (congrArg Select.source hselect)
    (congrArg Select.condition hselect) hjoins
  have hkept : t.scopes? ops db = _ := hscopes
  rw [Select.countedRows?, hkept, Option.map_some, List.length_map, matching,
    List.countP_eq_length_filter]
  rfl

end EntityDescriptor

open EntityDescriptor in
/-- Paging totals are right. The counting statement made from criteria over a
  registered entity counts as many rows as the selecting statement returns when its
  window is taken away, although it leaves out the joins that only sort keys need. -/
theorem Registry.countedRows?_eq_length {m : Mapping} {r : Registry}
    (hr : Registry.ofMapping m = .ok r) {entity : String} {e : EntityDescriptor}
    (he : r.resolver.descriptor entity = .ok e) {c : Criteria} {s t : Select}
    (hs : r.resolver.select entity c = .ok s) (ht : r.resolver.countSelect entity c = .ok t)
    (ops : Operators V) (db : Database V) (hkeyed : ∀ x ∈ e.extensionTables, db.KeyedBy x) :
    ∃ rows, { s with window := none }.results? ops db = some rows ∧
      t.countedRows? ops db = some rows.length := by
  have h : e.WellFormed := wellFormed_of_descriptor hr he
  rw [Resolver.select_of_descriptor he] at hs
  rw [Resolver.countSelect_of_descriptor he] at ht
  obtain ⟨rows, hrows, hlength⟩ := exists_results? h hkeyed ops hs
  refine ⟨rows, hrows, ?_⟩
  rw [countedRows?_eq_some h hkeyed ops ht, hlength]

namespace Storefront

/-- Three invoices, of which the last has no total. Only the second one is flagged. -/
def invoices : Database Nat := fun table =>
  if table = ⟨some "billing", "invoices"⟩ then
    [fun column => if column = "key" then some 1 else if column = "total" then some 10 else none,
     fun column => if column = "key" then some 2 else if column = "total" then some 20 else none,
     fun column => if column = "key" then some 3 else none]
  else if table = ⟨some "billing", "invoice_flags"⟩ then
    [fun column => if column = "invoice_key" then some 2 else none]
  else []

/-- The first invoice with a total, by payment. -/
def firstWithTotal : Criteria where
  predicate := some (.comparison ⟨"total", .isNotNull⟩)
  sortKeys := [⟨"paid", .ascending⟩]
  window := some ⟨0, 1⟩

/-- There are two invoices with a total, whether they are flagged or not. -/
theorem countedRows?_firstWithTotal :
    ∃ r e s t, Registry.ofMapping invoiceMapping = .ok r ∧
      r.resolver.descriptor "Invoice" = .ok e ∧
      r.resolver.select "Invoice" firstWithTotal = .ok s ∧
      r.resolver.countSelect "Invoice" firstWithTotal = .ok t ∧
      (∀ x ∈ e.extensionTables, invoices.KeyedBy x) ∧
      s.joins.length = 1 ∧ t.joins.length = 0 ∧
      ∃ rows, { s with window := none }.results? presence invoices = some rows ∧
        t.countedRows? presence invoices = some rows.length ∧ rows.length = 2 := by
  obtain ⟨r, hr, e, he, htables, s, hs, hsjoins, t, ht, htjoins, htwo⟩ :
      ∃ r, Registry.ofMapping invoiceMapping = .ok r ∧
        ∃ e, r.resolver.descriptor "Invoice" = .ok e ∧
          e.extensionTables = invoice.extensionTables ∧
          ∃ s, r.resolver.select "Invoice" firstWithTotal = .ok s ∧ s.joins.length = 1 ∧
            ∃ t, r.resolver.countSelect "Invoice" firstWithTotal = .ok t ∧ t.joins.length = 0 ∧
              t.countedRows? presence invoices = some 2 :=
    ⟨_, rfl, _, rfl, rfl, _, rfl, rfl, _, rfl, rfl, rfl⟩
  have hkeyed : ∀ x ∈ e.extensionTables, invoices.KeyedBy x := by
    rw [htables]
    simp only [invoice, List.forall_mem_singleton]
    exact Database.keyedBy_of_nodup (List.nodup_singleton _)
  obtain ⟨rows, hrows, hcounted⟩ :=
    Registry.countedRows?_eq_length hr he hs ht presence invoices hkeyed
  have hlength : rows.length = 2 := Option.some.inj (hcounted.symm.trans htwo)
  exact ⟨r, e, s, t, hr, he, hs, ht, hkeyed, hsjoins, htjoins, rows, hrows, hcounted, hlength⟩

end Storefront

end EntityQuery
