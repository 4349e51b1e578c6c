import EntityQuery.Proofs.Mapping.Acceptance

/-!
# What registration guarantees

An entity mapping that passes registration becomes a descriptor in which every
property is bound to a column of the primary table or of exactly one declared
extension table. Later stages rely on nothing else.

## Main definitions

- `EntityDescriptor.WellFormed` — the guarantees of a registered descriptor

## Main statements

- `EntityDescriptor.Describes.wellFormed` — what describes a well formed mapping is
  well formed
- `Registry.wellFormed_of_descriptor` — every registered descriptor is well formed
-/

namespace EntityQuery

/-- What a registered descriptor guarantees about its tables and bindings. -/
structure EntityDescriptor.WellFormed (e : EntityDescriptor) : Prop where
  /-- No extension table is declared twice. -/
  tables_nodup : (e.extensionTables.map ExtensionTable.table).Nodup
  /-- The primary table is not an extension table. -/
  primary_not_mem : e.primaryTable ∉ e.extensionTables.map ExtensionTable.table
  /-- No property is bound twice. -/
  properties_nodup : (e.bindings.map PropertyBinding.property).Nodup
  /-- A property without a join column is kept in the primary table. -/
  table_eq_primary : ∀ b ∈ e.bindings, b.joinColumn = none → b.table = e.primaryTable
  /-- A property with a join column is kept in an extension table joined by it. -/
  mem_extensionTables : ∀ b ∈ e.bindings, ∀ joinColumn, b.joinColumn = some joinColumn →
    ⟨b.table, joinColumn⟩ ∈ e.extensionTables
  /-- The primary key is the column of a property kept in the primary table. -/
  key_bound : ∃ b ∈ e.bindings, b.joinColumn = none ∧ b.column.name = e.primaryKey

namespace EntityMapping

variable {m : EntityMapping} {p : PropertyMapping} {b : PropertyBinding}

theorem Binds.joinColumn_eq_none_iff (h : m.Binds p b) :
    b.joinColumn = none ↔ p.extensionTable = none := by
  have hextension := h.isExtension
  rw [PropertyBinding.isExtension] at hextension
  rw [← Option.isNone_iff_eq_none, ← Option.isNone_iff_eq_none, ← Option.not_isSome,
    ← Option.not_isSome, hextension]

/-- Bound properties keep their names. -/
theorem map_property_of_binds {properties : List PropertyMapping} {bindings : List PropertyBinding}
    (h : List.Forall₂ m.Binds properties bindings) :
    bindings.map PropertyBinding.property = properties.map PropertyMapping.name := by
  induction h with
  | nil => rfl
  | cons hb _ ih => rw [List.map_cons, List.map_cons, hb.property, ih]

end EntityMapping

/-- A descriptor of a well formed mapping is well formed. -/
theorem EntityDescriptor.Describes.wellFormed {entity : String} {m : EntityMapping}
    {e : EntityDescriptor} (h : e.Describes entity m) (hm : m.WellFormed) : e.WellFormed := by
  obtain ⟨hproperties, hbindings⟩ := exists_mem_of_forall₂ h.bindings
  constructor
  case tables_nodup => exact h.extensionTables ▸ hm.tables_nodup
  case primary_not_mem => rw [h.primaryTable, h.extensionTables]; exact hm.primary_not_mem
  case properties_nodup =>
    rw [EntityMapping.map_property_of_binds h.bindings]
    exact hm.properties_nodup
  case table_eq_primary =>
    intro b hb hjoin
    obtain ⟨p, -, hp⟩ := hbindings b hb
    rw [h.primaryTable]
    exact (hp.primary (hp.joinColumn_eq_none_iff.1 hjoin)).1
  case mem_extensionTables =>
    intro b hb joinColumn hjoin
    obtain ⟨p, -, hp⟩ := hbindings b hb
    cases hreference : p.extensionTable with
    | none =>
      rw [hp.joinColumn_eq_none_iff.2 hreference] at hjoin
      cases hjoin
    | some reference =>
      obtain ⟨x, hx, -, htable, hcolumn⟩ := hp.extension reference hreference
      obtain rfl : x.joinColumn = joinColumn := Option.some.inj (hcolumn.symm.trans hjoin)
      rw [h.extensionTables, htable]
      exact hx
  case key_bound =>
    obtain ⟨p, hpmem, hprimary, hcolumn⟩ := hm.key_declared
    obtain ⟨b, hb, hp⟩ := hproperties p hpmem
    refine ⟨b, hb, hp.joinColumn_eq_none_iff.2 hprimary, ?_⟩
    rw [hp.column, h.primaryKey]
    exact hcolumn

/-- Every descriptor of a registry is well formed. -/
theorem Registry.wellFormed_of_descriptor {m : Mapping} {r : Registry}
    (h : Registry.ofMapping m = .ok r) {entity : String} {e : EntityDescriptor}
    (he : r.resolver.descriptor entity = .ok e) : e.WellFormed := by
  obtain ⟨em, -, hmade⟩ := exists_mapping h (descriptor_eq_ok_iff.1 he)
  obtain ⟨hem, hdescribes⟩ := EntityDescriptor.ofMapping_eq_ok_iff.1 hmade
  exact hdescribes.wellFormed hem

end EntityQuery
