import EntityQuery.Proofs.Translation.Joins

/-!
# Referring to extension tables

A property names its extension table by a text: by the name of the table alone, or by
schema and name with a point between them. The two ways share one text without any
escape, so an accepted mapping may declare a table that no text refers to.

## Main definitions

- `EntityMapping.TellsApart` — a reference names one declared extension table only
- `EntityMapping.Referable` — the extension tables that some reference tells apart
- `EntityMapping.withExtension` — a mapping with one more property

## Main statements

- `EntityMapping.exists_tellsApart_iff` — which tables can be told apart
- `Registry.exists_reference_iff` — which tables a further property can be kept in
-/

namespace EntityQuery

namespace EntityMapping

/-- A reference names this extension table and no other one that is declared. -/
def TellsApart (m : EntityMapping) (reference : String) (x : ExtensionTable) : Prop :=
  ∀ y, y ∈ m.extensionTables ∧ y.NamedBy reference ↔ y = x

/-- The extension tables that can be referred to: by schema and name if the schema has no
  point, by the name alone if it has no point and no other declared table has it. -/
def Referable (m : EntityMapping) (x : ExtensionTable) : Prop :=
  (∃ schema, x.table.schema = some schema ∧ '.' ∉ schema.toList) ∨
    '.' ∉ x.table.name.toList ∧
      ∀ y ∈ m.extensionTables, y.table.name = x.table.name → y = x

/-- A mapping with one more property, which refers to an extension table. -/
def withExtension (m : EntityMapping) (p : PropertyMapping) (reference : String) :
    EntityMapping :=
  { m with properties := m.properties ++ [{ p with extensionTable := some reference }] }

end EntityMapping

-- ════════════════════════════════════════════════════════════════════════
-- References
-- ════════════════════════════════════════════════════════════════════════

namespace ExtensionTable

variable {x : ExtensionTable} {schema name : String}

theorem namedBy_bare_iff (hname : '.' ∉ name.toList) : x.NamedBy name ↔ x.table.name = name := by
  rw [← isReferredBy_iff, isReferredBy, Text.splitOnce_of_not_mem hname]
  simp

theorem namedBy_qualified_iff (hschema : '.' ∉ schema.toList) :
    x.NamedBy (schema ++ "." ++ name) ↔ x.table = ⟨some schema, name⟩ := by
  have hreference : (schema ++ "." ++ name).toList = schema.toList ++ '.' :: name.toList := by simp
  obtain ⟨⟨found, title⟩, joinColumn⟩ := x
  rw [← isReferredBy_iff, isReferredBy, hreference, Text.splitOnce_append hschema]
  simp

end ExtensionTable

/-- Where names are not repeated, every binding is found under the name of its property. -/
theorem EntityDescriptor.binding_of_mem {e : EntityDescriptor} {b : PropertyBinding}
    (hnodup : (e.bindings.map PropertyBinding.property).Nodup) (hb : b ∈ e.bindings) :
    e.binding b.property = .ok b := by
  rw [binding]
  cases hfound : e.bindings.find? (·.property == b.property) with
  | none => simpa using List.find?_eq_none.1 hfound b hb
  | some c =>
    have hname : c.property = b.property := by simpa using List.find?_some hfound
    have hsame : c = b :=
      List.inj_on_of_nodup_map hnodup (List.mem_of_find?_eq_some hfound) hb hname
    rw [hsame]

namespace EntityMapping

variable {entity : String} {m : EntityMapping} {p : PropertyMapping} {reference : String}
  {x : ExtensionTable}

theorem exists_tellsApart_iff (hnodup : (m.extensionTables.map ExtensionTable.table).Nodup)
    (hx : x ∈ m.extensionTables) : (∃ reference, m.TellsApart reference x) ↔ m.Referable x := by
  constructor
  · rintro ⟨reference, happart⟩
    have hnamed : x.NamedBy reference := ((happart x).2 rfl).2
    cases hnamed with
    | bare hname htable =>
      subst htable
      refine .inr ⟨hname, fun y hy hyname => (happart y).1 ⟨hy, ?_⟩⟩
      exact (ExtensionTable.namedBy_bare_iff hname).2 hyname
    | @qualified schema name hschema htable => exact .inl ⟨schema, by rw [htable], hschema⟩
  · rintro (⟨schema, hxschema, hschema⟩ | ⟨hname, hunique⟩)
    · have htable : x.table = ⟨some schema, x.table.name⟩ := by rw [← hxschema]
      refine ⟨schema ++ "." ++ x.table.name, fun y => ?_⟩
      rw [ExtensionTable.namedBy_qualified_iff hschema, ← htable]
      constructor
      · rintro ⟨hy, hyx⟩
        exact List.inj_on_of_nodup_map hnodup hy hx hyx
      · rintro rfl
        exact ⟨hx, rfl⟩
    · refine ⟨x.table.name, fun y => ?_⟩
      rw [ExtensionTable.namedBy_bare_iff hname]
      constructor
      · rintro ⟨hy, hyx⟩
        exact hunique y hy hyx
      · rintro rfl
        exact ⟨hx, rfl⟩

-- ════════════════════════════════════════════════════════════════════════
-- One more property
-- ════════════════════════════════════════════════════════════════════════

/-- What a property with a reference is bound to. -/
def extensionBinding (p : PropertyMapping) (x : ExtensionTable) : PropertyBinding :=
  ⟨p.name, x.table, p.column, p.converter, some x.joinColumn⟩

theorem extensionBinding_injective {x y : ExtensionTable}
    (h : extensionBinding p x = extensionBinding p y) : x = y := by
  obtain ⟨table, joinColumn⟩ := x
  obtain ⟨table', joinColumn'⟩ := y
  simpa [extensionBinding] using h

theorem TellsApart.locates (h : m.TellsApart reference x) (hp : p.extensionTable = some reference) :
    m.Locates p := by
  intro named hnamed
  obtain rfl : reference = named := Option.some.inj (hp.symm.trans hnamed)
  exact ⟨x, (h x).2 rfl, fun y hy => (h y).1 hy⟩

theorem WellFormed.withExtension (hm : m.WellFormed)
    (hp : p.name ∉ m.properties.map PropertyMapping.name) (h : m.TellsApart reference x) :
    (m.withExtension p reference).WellFormed where
  joinColumn_ne_blank := hm.joinColumn_ne_blank
  tables_nodup := hm.tables_nodup
  primary_not_mem := hm.primary_not_mem
  properties_nodup := by
    show ((m.properties ++ [_]).map PropertyMapping.name).Nodup
    rw [List.map_append, List.map_singleton, List.nodup_append]
    refine ⟨hm.properties_nodup, List.nodup_singleton _, ?_⟩
    rintro name hname _ hlast rfl
    rw [List.mem_singleton.1 hlast] at hname
    exact hp hname
  locates := by
    intro q hq
    rcases List.mem_append.1 hq with hq | hq
    · exact hm.locates q hq
    · rw [List.mem_singleton.1 hq]
      exact TellsApart.locates h rfl
  key_declared := by
    obtain ⟨key, hkey, hprimary⟩ := hm.key_declared
    exact ⟨key, List.mem_append_left _ hkey, hprimary⟩

theorem binding_withExtension {e : EntityDescriptor}
    (hm : (m.withExtension p reference).WellFormed)
    (he : e.Describes entity (m.withExtension p reference)) (hx : x ∈ m.extensionTables)
    (hnamed : x.NamedBy reference) : e.binding p.name = .ok (extensionBinding p x) := by
  let new : PropertyMapping := { p with extensionTable := some reference }
  have hnew : new ∈ (m.withExtension p reference).properties :=
    List.mem_append_right _ (List.mem_singleton_self _)
  obtain ⟨b, hb, hbinds⟩ := (exists_mem_of_forall₂ he.bindings).1 new hnew
  have hsame : b = extensionBinding p x :=
    (hm.locates new hnew).binds_unique hbinds (binds_extension rfl hx hnamed)
  have hbinding := EntityDescriptor.binding_of_mem (he.wellFormed hm).properties_nodup hb
  rwa [hsame] at hbinding

/-- With a new property that has a reference, a mapping is accepted and keeps the property in
  an extension table exactly if the reference tells this table apart. -/
theorem exists_binding_iff (entity : String) (hm : m.WellFormed)
    (hp : p.name ∉ m.properties.map PropertyMapping.name) :
    (∃ e, EntityDescriptor.ofMapping entity (m.withExtension p reference) = .ok e ∧
      e.binding p.name = .ok (extensionBinding p x)) ↔ m.TellsApart reference x := by
  constructor
  · rintro ⟨e, he, hbinding⟩
    obtain ⟨hnew, hdescribes⟩ := EntityDescriptor.ofMapping_eq_ok_iff.1 he
    obtain ⟨y, ⟨hy, hynamed⟩, hunique⟩ :=
      hnew.locates { p with extensionTable := some reference }
        (List.mem_append_right _ (List.mem_singleton_self _)) reference rfl
    have hbound := binding_withExtension hnew hdescribes hy hynamed
    obtain rfl : x = y := extensionBinding_injective (Except.ok.inj (hbinding.symm.trans hbound))
    intro z
    constructor
    · exact hunique z
    · rintro rfl
      exact ⟨hy, hynamed⟩
  · intro h
    have hnew : (m.withExtension p reference).WellFormed := hm.withExtension hp h
    obtain ⟨e, he⟩ := hnew.exists_ofMapping entity
    obtain ⟨hx, hnamed⟩ := (h x).2 rfl
    exact ⟨e, he, binding_withExtension hnew
      (EntityDescriptor.ofMapping_eq_ok_iff.1 he).2 hx hnamed⟩

end EntityMapping

-- ════════════════════════════════════════════════════════════════════════
-- Registries
-- ════════════════════════════════════════════════════════════════════════

namespace Registry

variable {m : Mapping} {r : Registry} {entity : String}

theorem wellFormed_of_find? (hr : ofMapping m = .ok r) {em : EntityMapping}
    (hem : m.entities.find? entity = some em) : em.WellFormed := by
  obtain ⟨_, -, hmade⟩ := exists_entity hr hem
  exact (EntityDescriptor.ofMapping_eq_ok_iff.1 hmade).1

/-- The other entities of an accepted mapping do not stand in the way of a changed one. -/
theorem exists_ofMapping_insert_iff (hr : ofMapping m = .ok r) {em : EntityMapping}
    {e : EntityDescriptor} :
    (∃ r', ofMapping ⟨m.entities.insert entity em⟩ = .ok r' ∧
      r'.resolver.descriptor entity = .ok e) ↔ EntityDescriptor.ofMapping entity em = .ok e := by
  have hinserted : (m.entities.insert entity em).find? entity = some em := by
    rw [Dict.find?_insert, if_pos rfl]
  constructor
  · rintro ⟨r', hr', he⟩
    obtain ⟨em', hem', hmade⟩ := exists_mapping hr' (descriptor_eq_ok_iff.1 he)
    obtain rfl : em = em' := Option.some.inj (hinserted.symm.trans hem')
    exact hmade
  · intro hmade
    have hall : ∀ name em', (m.entities.insert entity em).find? name = some em' →
        ∃ e', EntityDescriptor.ofMapping name em' = .ok e' := by
      intro name em' hname
      rw [Dict.find?_insert] at hname
      split at hname
      · rename_i hsame
        obtain rfl : em = em' := Option.some.inj hname
        exact ⟨e, by rw [hsame, hmade]⟩
      · obtain ⟨e', -, hmade'⟩ := exists_entity hr hname
        exact ⟨e', hmade'⟩
    obtain ⟨entities, hentities⟩ := Dict.exists_mapM_iff.2 hall
    have hr' : ofMapping ⟨m.entities.insert entity em⟩ = .ok ⟨entities⟩ :=
      ofMapping_eq_ok_iff.2 hentities
    obtain ⟨e', he', hmade'⟩ := exists_entity hr' hinserted
    obtain rfl : e = e' := Except.ok.inj (hmade.symm.trans hmade')
    exact ⟨⟨entities⟩, hr', descriptor_eq_ok_iff.2 he'⟩

/-- With one more property of an entity, the mapping of a registry is accepted and the
  property is found in this extension table. -/
def KeepsIn (m : Mapping) (entity : String) (em : EntityMapping) (p : PropertyMapping)
    (reference : String) (x : ExtensionTable) : Prop :=
  ∃ r, ofMapping ⟨m.entities.insert entity (em.withExtension p reference)⟩ = .ok r ∧
    r.resolver.resolve entity p.name = .ok (EntityMapping.extensionBinding p x)

theorem keepsIn_iff (hr : ofMapping m = .ok r) {em : EntityMapping}
    (hem : m.entities.find? entity = some em) {p : PropertyMapping}
    (hp : p.name ∉ em.properties.map PropertyMapping.name) {reference : String}
    {x : ExtensionTable} :
    KeepsIn m entity em p reference x ↔ em.TellsApart reference x := by
  have hwell : em.WellFormed := wellFormed_of_find? hr hem
  rw [← EntityMapping.exists_binding_iff entity hwell hp]
  constructor
  · rintro ⟨r', hr', hresolved⟩
    rw [Resolver.resolve] at hresolved
    split at hresolved
    · cases hresolved
    · rename_i e he
      exact ⟨e, (exists_ofMapping_insert_iff hr).1 ⟨r', hr', he⟩, hresolved⟩
  · rintro ⟨e, he, hbinding⟩
    obtain ⟨r', hr', hdescriptor⟩ := (exists_ofMapping_insert_iff hr).2 he
    refine ⟨r', hr', ?_⟩
    rw [Resolver.resolve, hdescriptor]
    exact hbinding

/-- Which extension tables a further property can be kept in. Whatever the property is, a
  reference to a declared extension table of a registered entity exists exactly if the schema
  of the table has no point, or its name has none and no other declared extension table has
  this name. -/
theorem exists_reference_iff (hr : ofMapping m = .ok r) {em : EntityMapping}
    (hem : m.entities.find? entity = some em) {x : ExtensionTable} (hx : x ∈ em.extensionTables)
    {p : PropertyMapping} (hp : p.name ∉ em.properties.map PropertyMapping.name) :
    (∃ reference, KeepsIn m entity em p reference x) ↔
      (∃ schema, x.table.schema = some schema ∧ '.' ∉ schema.toList) ∨
        '.' ∉ x.table.name.toList ∧
          ∀ y ∈ em.extensionTables, y.table.name = x.table.name → y = x := by
  have hwell : em.WellFormed := wellFormed_of_find? hr hem
  simp only [keepsIn_iff hr hem hp]
  exact EntityMapping.exists_tellsApart_iff hwell.tables_nodup hx

end Registry

namespace Storefront

/-- Customers whose notes are kept in two tables of one name, one of them without a schema,
  and whose orders are kept in a schema with a point. -/
def sharedNotes : EntityMapping where
  primaryTable := ⟨none, "customers"⟩
  primaryKey := "key"
  extensionTables :=
    [⟨⟨none, "customer_notes"⟩, "customer_key"⟩, ⟨⟨some "crm", "customer_notes"⟩, "customer_key"⟩,
     ⟨⟨some "sales.eu", "orders"⟩, "customer_key"⟩]
  properties := [property "key" "key" .uuid .nonNullable]

/-- These customers alone. -/
def sharedNotesMapping : Mapping :=
  ⟨.ofList [("Customer", sharedNotes)]⟩

/-- Orders can be referred to in spite of the point, by the name of their table. -/
theorem exists_reference_orders :
    ∃ r, Registry.ofMapping sharedNotesMapping = .ok r ∧
      ∃ reference, Registry.KeepsIn sharedNotesMapping "Customer" sharedNotes
        (property "placedAt" "placed_at" .timestamp .nullable) reference
        ⟨⟨some "sales.eu", "orders"⟩, "customer_key"⟩ := by
  obtain ⟨r, hr⟩ : ∃ r, Registry.ofMapping sharedNotesMapping = .ok r := ⟨_, rfl⟩
  refine ⟨r, hr, (Registry.exists_reference_iff hr rfl ?_ ?_).2 (.inr ⟨?_, ?_⟩)⟩
  · decide
  · decide
  · decide
  · decide

/-- No property can be kept in the notes without a schema: their name is also that of other
  notes. -/
theorem not_exists_reference_notes :
    (∃ r, Registry.ofMapping sharedNotesMapping = .ok r) ∧
    (∀ p ∈ sharedNotes.properties, p.extensionTable = none) ∧
    ⟨⟨none, "customer_notes"⟩, "customer_key"⟩ ∈ sharedNotes.extensionTables ∧
    ¬ ∃ p reference, p.name ∉ sharedNotes.properties.map PropertyMapping.name ∧
      Registry.KeepsIn sharedNotesMapping "Customer" sharedNotes p reference
        ⟨⟨none, "customer_notes"⟩, "customer_key"⟩ := by
  obtain ⟨r, hr⟩ : ∃ r, Registry.ofMapping sharedNotesMapping = .ok r := ⟨_, rfl⟩
  have hem : sharedNotesMapping.entities.find? "Customer" = some sharedNotes := rfl
  refine ⟨⟨r, hr⟩, by decide, by decide, ?_⟩
  rintro ⟨p, reference, hp, hkept⟩
  have happart := (Registry.keepsIn_iff hr hem hp).1 hkept
  have hnodup := (Registry.wellFormed_of_find? hr hem).tables_nodup
  rcases (EntityMapping.exists_tellsApart_iff hnodup (by decide)).1 ⟨reference, happart⟩ with
    ⟨schema, hschema, -⟩ | ⟨-, hunique⟩
  · cases hschema
  · have hsame := hunique ⟨⟨some "crm", "customer_notes"⟩, "customer_key"⟩ (by decide) rfl
    exact absurd hsame (by decide)

end Storefront

end EntityQuery
