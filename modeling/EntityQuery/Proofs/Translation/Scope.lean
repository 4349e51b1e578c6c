import Mathlib.Data.List.Forall2
import EntityQuery.Storefront
import EntityQuery.Proofs.Translation.Joins

/-!
# What a translated statement refers to

Every column of a translated statement belongs to the table that rows are selected
from or to a joined table, no table stands in the statement twice, and nothing is
joined that the criteria do not mention.

## Main definitions

- `Sql.Expr.columns`, `Sql.Select.columns` — the columns that a tree refers to
- `Sql.Select.Scoped` — tables are told apart by name and every column is in scope
- `EntityDescriptor.Reads` — the column that a property is read from

## Main statements

- `EntityDescriptor.select_reads` — condition and ordering read the mentioned
  properties, in order
- `Registry.scoped_select` — the scope, the joins and the outputs of a statement
-/

namespace EntityQuery

namespace Sql

mutual

/-- The columns of an expression, from left to right. -/
def Expr.columns : Expr → List ColumnRef
  | .and l r => l.columns ++ r.columns
  | .or l r => l.columns ++ r.columns
  | .compare _ l r => l.columns ++ r.columns
  | .isIn e items => e.columns ++ itemColumns items
  | .nullTest _ e => e.columns
  | .column c => [c]
  | .param _ => []
  | .countRows => []

/-- The columns of a list of expressions, from left to right. -/
def itemColumns : List Expr → List ColumnRef
  | [] => []
  | e :: rest => e.columns ++ itemColumns rest

end

namespace Select

/-- The columns of a statement: of what is selected, of the join conditions, of the
  condition and of the ordering. -/
def columns (s : Select) : List ColumnRef :=
  s.outputs.flatMap (·.expr.columns) ++ s.joins.flatMap (·.on.columns)
    ++ s.condition.toList.flatMap Expr.columns ++ s.ordering.flatMap (·.target.columns)

/-- The tables of a statement, in order. -/
def tables (s : Select) : List TableName :=
  s.source :: s.joins.map Join.table

/-- A statement without loose references. -/
structure Scoped (s : Select) : Prop where
  /-- No table stands in the statement twice. -/
  tables_nodup : s.tables.Nodup
  /-- Every column belongs to a table of the statement. -/
  table_mem : ∀ ref ∈ s.columns, ref.table ∈ s.tables

end Select

theorem itemColumns_params {params : List Param} : itemColumns (params.map Expr.param) = [] := by
  induction params with
  | nil => rfl
  | cons p rest ih => rw [List.map_cons, itemColumns, ih, Expr.columns, List.append_nil]

end Sql

open Sql

namespace EntityDescriptor

variable {e : EntityDescriptor} {b : PropertyBinding}

-- ════════════════════════════════════════════════════════════════════════
-- Columns of properties
-- ════════════════════════════════════════════════════════════════════════

/-- The column that a property is read from. -/
def Reads (e : EntityDescriptor) (property : String) (ref : ColumnRef) : Prop :=
  ∃ b, e.binding property = .ok b ∧ ref = ⟨b.table, b.column.name⟩

theorem testCondition_columns {t : Test} {x : Expr} (h : testCondition b t = .ok x) :
    x.columns = [⟨b.table, b.column.name⟩] := by
  cases t with
  | compare op v =>
    obtain ⟨-, p, -, rfl⟩ := testCondition_compare.1 h
    rfl
  | isIn first rest =>
    obtain ⟨params, -, rfl⟩ := testCondition_isIn.1 h
    rw [Expr.columns, itemColumns_params]
    rfl
  | isNull =>
    cases h
    rfl
  | isNotNull =>
    cases h
    rfl

/-- A condition reads the properties of its comparisons, each where it is compared. -/
theorem conditionOf?_reads {c : Criteria} {condition : Option Expr}
    (h : e.conditionOf? c.predicate = .ok condition) :
    List.Forall₂ e.Reads (c.comparisons.map Comparison.property)
      (condition.toList.flatMap Expr.columns) := by
  rw [List.map_eq_flatMap]
  refine conditionOf?_forall₂ (fun p x hx => ?_) h
  refine conditionOf_forall₂ (fun _ _ => rfl) (fun _ _ => rfl) ?_ hx
  intro comparison b y hb ht
  rw [testCondition_columns ht]
  exact .cons ⟨b, hb, rfl⟩ .nil

theorem orderingOf_reads {keys : List SortKey} {ordering : List OrderKey}
    (h : e.orderingOf keys = .ok ordering) :
    List.Forall₂ e.Reads (keys.map SortKey.property) (ordering.flatMap (·.target.columns)) := by
  induction keys generalizing ordering with
  | nil =>
    cases h
    exact .nil
  | cons k rest ih =>
    obtain ⟨b, more, hb, hmore, rfl⟩ := orderingOf_cons.1 h
    exact .cons ⟨b, hb, rfl⟩ (ih hmore)

/-- Condition and ordering of a statement read the properties that the criteria
  mention, in the order of mention. -/
theorem select_reads {c : Criteria} {s : Select} (h : e.select c = .ok s) :
    List.Forall₂ e.Reads c.referencedProperties
      (s.condition.toList.flatMap Expr.columns ++ s.ordering.flatMap (·.target.columns)) := by
  obtain ⟨condition, ordering, hc, ho, rfl⟩ := select_eq_ok.1 h
  exact List.rel_append (conditionOf?_reads hc) (orderingOf_reads ho)

-- ════════════════════════════════════════════════════════════════════════
-- Scope
-- ════════════════════════════════════════════════════════════════════════

/-- The column of a mentioned property belongs to the primary table or to an
  extension table that is mentioned. -/
theorem Reads.table_mem (h : e.WellFormed) {properties : List String} {property : String}
    (hproperty : property ∈ properties) {ref : ColumnRef} (href : e.Reads property ref) :
    ref.table ∈ e.primaryTable :: (e.extensionsOf properties).eraseDups.map ExtensionTable.table := by
  obtain ⟨b, hb, rfl⟩ := href
  cases hjoin : b.joinColumn with
  | none =>
    have hprimary : b.table = e.primaryTable := h.table_eq_primary b (mem_of_binding hb).1 hjoin
    exact List.mem_cons.2 (.inl hprimary)
  | some joinColumn =>
    have hx : ⟨b.table, joinColumn⟩ ∈ e.extensionsOf properties :=
      mem_extensionsOf.2 ⟨property, hproperty, b, hb, by simp [PropertyBinding.extension?, hjoin]⟩
    exact List.mem_cons_of_mem _ (List.mem_map.2 ⟨_, List.mem_eraseDups.2 hx, rfl⟩)

theorem tables_of_select (h : e.WellFormed) {c : Criteria} {s : Select}
    (hs : e.select c = .ok s) :
    s.tables = e.primaryTable :: (e.mentionedTables c).map ExtensionTable.table := by
  obtain ⟨condition, ordering, -, -, rfl⟩ := select_eq_ok.1 hs
  rw [Select.tables, mentionAll_eq h, List.map_map]
  rfl

theorem scoped_of_select (h : e.WellFormed) {c : Criteria} {s : Select}
    (hs : e.select c = .ok s) : s.Scoped := by
  have htables := tables_of_select h hs
  refine ⟨?_, ?_⟩
  · rw [htables]
    exact h.nodup_tables h.mentionedTables_subset (nodup_eraseDups _)
  · intro ref href
    have hreads := select_reads hs
    rw [htables]
    obtain ⟨condition, ordering, -, -, rfl⟩ := select_eq_ok.1 hs
    rw [Select.columns, List.append_assoc, List.mem_append, List.mem_append] at href
    rcases href with (houtput | hjoin) | hread
    · obtain ⟨o, ho, href⟩ := List.mem_flatMap.1 houtput
      obtain ⟨b, -, rfl⟩ := List.mem_map.1 ho
      obtain rfl := List.mem_singleton.1 href
      exact List.mem_cons_self
    · rw [mentionAll_eq h] at hjoin
      obtain ⟨j, hj, href⟩ := List.mem_flatMap.1 hjoin
      obtain ⟨x, hx, rfl⟩ := List.mem_map.1 hj
      -- A join compares a column of the joined table with one of the primary table.
      rcases List.mem_cons.1 href with rfl | href
      · exact List.mem_cons_of_mem _ (List.mem_map_of_mem hx)
      · obtain rfl := List.mem_singleton.1 href
        exact List.mem_cons_self
    · obtain ⟨property, hproperty, hproperties⟩ := (exists_mem_of_forall₂ hreads).2 ref hread
      exact hproperties.table_mem h hproperty

-- ════════════════════════════════════════════════════════════════════════
-- Outputs
-- ════════════════════════════════════════════════════════════════════════

/-- The declared properties of the primary table are selected, in order. -/
theorem Describes.outputs_eq {entity : String} {m : EntityMapping} (h : e.Describes entity m) :
    e.outputs = (m.properties.filter (·.extensionTable.isNone)).map fun p =>
      ⟨p.name, .column ⟨m.primaryTable, p.column.name⟩⟩ := by
  rw [outputs, primaryBindings, h.primaryTable]
  have hbindings := h.bindings
  generalize m.properties = properties, e.bindings = bindings at hbindings
  induction hbindings with
  | nil => rfl
  | @cons p b _ _ hb _ ih =>
    have hkept : (!b.isExtension) = p.extensionTable.isNone := by
      rw [hb.isExtension, Option.not_isSome]
    rw [List.filter_cons, List.filter_cons, hkept]
    split
    · rw [List.map_cons, List.map_cons, ih, hb.property, hb.column]
    · exact ih

end EntityDescriptor

open EntityDescriptor in
/-- Statements are well scoped and join no more than they need. The statement made
  from criteria over a registered entity joins the extension tables of the
  mentioned properties, each once and in the order of first mention, by comparing
  the declared join column with the primary key. It refers to these tables and to
  the primary table only, and selects the properties declared in the primary table
  under their own names, the primary key among them. -/
theorem Registry.scoped_select {m : Mapping} {r : Registry} (hr : Registry.ofMapping m = .ok r)
    {entity : String} {em : EntityMapping} (hem : m.entities.find? entity = some em)
    {c : Criteria} {s : Select} (hs : r.resolver.select entity c = .ok s) :
    s.Scoped ∧ s.source = em.primaryTable ∧
    (∃ e, r.resolver.descriptor entity = .ok e ∧ e.Describes entity em ∧
      (∀ x ∈ e.extensionsOf c.referencedProperties, x ∈ em.extensionTables) ∧
      s.joins = (e.extensionsOf c.referencedProperties).eraseDups.map fun x =>
        { table := x.table
          on := .compare .equals (.column ⟨x.table, x.joinColumn⟩)
            (.column ⟨s.source, em.primaryKey⟩) }) ∧
    s.outputs = (em.properties.filter (·.extensionTable.isNone)).map (fun p =>
      ⟨p.name, .column ⟨s.source, p.column.name⟩⟩) ∧
    s.outputs ≠ [] ∧ (s.outputs.map Output.name).Nodup ∧
    ∃ o ∈ s.outputs, o.expr = .column ⟨s.source, em.primaryKey⟩ := by
  obtain ⟨e, he, hmade⟩ := exists_entity hr hem
  obtain ⟨hm, hdescribes⟩ := EntityDescriptor.ofMapping_eq_ok_iff.1 hmade
  have h : e.WellFormed := hdescribes.wellFormed hm
  have hdescriptor := descriptor_eq_ok_iff.2 he
  rw [Resolver.select_of_descriptor hdescriptor] at hs
  have hscoped := scoped_of_select h hs
  obtain ⟨condition, ordering, -, -, rfl⟩ := select_eq_ok.1 hs
  obtain ⟨key, hkey, hprimary, hcolumn⟩ := hm.key_declared
  have hselected : key ∈ em.properties.filter (·.extensionTable.isNone) :=
    List.mem_filter.2 ⟨hkey, by simp [hprimary]⟩
  have hkeyOutput : (⟨key.name, .column ⟨em.primaryTable, em.primaryKey⟩⟩ : Output) ∈ e.outputs := by
    rw [hdescribes.outputs_eq, ← hcolumn]
    exact List.mem_map_of_mem hselected
  refine ⟨hscoped, hdescribes.primaryTable, ⟨e, hdescriptor, hdescribes, ?_, ?_⟩, ?_, ?_, ?_, ?_⟩
  · intro x hx
    rw [← hdescribes.extensionTables]
    exact h.extensionsOf_subset hx
  · rw [mentionAll_eq h, ← hdescribes.primaryKey]
    rfl
  · rw [hdescribes.primaryTable]
    exact hdescribes.outputs_eq
  · exact List.ne_nil_of_mem hkeyOutput
  · have hnames : e.outputs.map Output.name =
        (em.properties.filter (·.extensionTable.isNone)).map PropertyMapping.name := by
      rw [hdescribes.outputs_eq, List.map_map]
      rfl
    rw [hnames]
    exact hm.properties_nodup.sublist (List.filter_sublist.map _)
  · refine ⟨_, hkeyOutput, ?_⟩
    rw [hdescribes.primaryTable]

namespace Storefront

/-- Customers by preferences and notes, some of them mentioned twice. -/
def byPreference : Criteria where
  predicate := some (.or
    (.and (.comparison ⟨"newsletter", .isNotNull⟩) (.comparison ⟨"email", .isNotNull⟩))
    (.comparison ⟨"newsletter", .compare .equals (.bool true)⟩))
  sortKeys := [⟨"note", .ascending⟩, ⟨"newsletter", .descending⟩]

/-- Preferences are joined before notes, although notes are declared first. -/
theorem scoped_byPreference :
    ∃ r s, Registry.ofMapping customerMapping = .ok r ∧
      customerMapping.entities.find? "Customer" = some customer ∧
      r.resolver.select "Customer" byPreference = .ok s ∧ s.Scoped ∧
      s.tables = [⟨none, "customers"⟩, ⟨none, "customer_preferences"⟩, ⟨none, "customer_notes"⟩] ∧
      s.outputs.map Output.name = ["key", "email"] ∧
      ∃ o ∈ s.outputs, o.expr = .column ⟨⟨none, "customers"⟩, "key"⟩ := by
  obtain ⟨r, hr, s, hs, htables, hnames⟩ : ∃ r, Registry.ofMapping customerMapping = .ok r ∧
      ∃ s, r.resolver.select "Customer" byPreference = .ok s ∧
        s.tables =
          [⟨none, "customers"⟩, ⟨none, "customer_preferences"⟩, ⟨none, "customer_notes"⟩] ∧
        s.outputs.map Output.name = ["key", "email"] :=
    ⟨_, rfl, _, rfl, rfl, rfl⟩
  have hem : customerMapping.entities.find? "Customer" = some customer := rfl
  obtain ⟨hscoped, hsource, -, -, -, -, hkey⟩ := Registry.scoped_select hr hem hs
  rw [hsource] at hkey
  exact ⟨r, s, hr, hem, hs, hscoped, htables, hnames, hkey⟩

end Storefront

end EntityQuery
