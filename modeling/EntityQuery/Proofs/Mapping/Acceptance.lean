import Mathlib.Data.List.DropRight
import Mathlib.Data.List.Forall2
import Mathlib.Data.List.Nodup
import EntityQuery.Mapping.Resolver
import EntityQuery.Storefront

/-!
# Which mappings are registered

Registration checks a mapping in passes that stop at the first fault. What is
accepted can be said without any order: a mapping is registered exactly if all of
its entities are well formed, and the registry then describes them as declared.

## Main definitions

- `ExtensionTable.NamedBy` — the references that name an extension table
- `EntityMapping.WellFormed` — the entity mappings that are accepted
- `EntityDescriptor.Describes` — a descriptor lists what a mapping declares

## Main statements

- `EntityDescriptor.ofMapping_eq_ok_iff` — what is accepted, and as what
- `Registry.registered_iff_wellFormed` — the same for the entities of a mapping
-/

namespace EntityQuery

-- ════════════════════════════════════════════════════════════════════════
-- Well formed mappings
-- ════════════════════════════════════════════════════════════════════════

/-- A text without the white space at its two ends. -/
def Text.trimmed (s : List Char) : List Char :=
  (skipBlank s).rdropWhile isBlankChar

/-- A reference names an extension table by its name alone, whatever its schema is,
  or by schema and name, divided by the first point of the reference. -/
inductive ExtensionTable.NamedBy (x : ExtensionTable) : String → Prop
  | bare {name : String} (hname : '.' ∉ name.toList) (htable : x.table.name = name) :
    x.NamedBy name
  | qualified {schema name : String} (hschema : '.' ∉ schema.toList)
    (htable : x.table = ⟨some schema, name⟩) : x.NamedBy (schema ++ "." ++ name)

namespace EntityMapping

/-- The reference of a property, if it has one, names exactly one of the declared
  extension tables. -/
def Locates (m : EntityMapping) (p : PropertyMapping) : Prop :=
  ∀ reference, p.extensionTable = some reference →
    ∃! x, x ∈ m.extensionTables ∧ x.NamedBy reference

/-- The entity mappings that are accepted. -/
structure WellFormed (m : EntityMapping) : Prop where
  /-- Every extension table has a join column that is not blank. -/
  joinColumn_ne_blank : ∀ x ∈ m.extensionTables, Text.trimmed x.joinColumn.toList ≠ []
  /-- No extension table is declared twice. -/
  tables_nodup : (m.extensionTables.map ExtensionTable.table).Nodup
  /-- The primary table is not an extension table. -/
  primary_not_mem : m.primaryTable ∉ m.extensionTables.map ExtensionTable.table
  /-- No property is declared twice. -/
  properties_nodup : (m.properties.map PropertyMapping.name).Nodup
  /-- Every reference names exactly one declared extension table. -/
  locates : ∀ p ∈ m.properties, m.Locates p
  /-- A property of the primary table is kept in the primary key column. -/
  key_declared : ∃ p ∈ m.properties, p.extensionTable = none ∧ p.column.name = m.primaryKey

/-- A binding keeps column and converter of its property. Without a reference it
  is bound to the primary table, with one to the extension table that is named. -/
structure Binds (m : EntityMapping) (p : PropertyMapping) (b : PropertyBinding) : Prop where
  property : b.property = p.name
  column : b.column = p.column
  converter : b.converter = p.converter
  primary : p.extensionTable = none → b.table = m.primaryTable ∧ b.joinColumn = none
  extension : ∀ reference, p.extensionTable = some reference →
    ∃ x ∈ m.extensionTables, x.NamedBy reference ∧ b.table = x.table ∧
      b.joinColumn = some x.joinColumn

end EntityMapping

/-- A descriptor lists what a mapping declares, in the order of declaration. -/
structure EntityDescriptor.Describes (e : EntityDescriptor) (entity : String) (m : EntityMapping) :
    Prop where
  name : e.name = entity
  primaryTable : e.primaryTable = m.primaryTable
  primaryKey : e.primaryKey = m.primaryKey
  extensionTables : e.extensionTables = m.extensionTables
  bindings : List.Forall₂ m.Binds m.properties e.bindings

-- ════════════════════════════════════════════════════════════════════════
-- References
-- ════════════════════════════════════════════════════════════════════════

theorem Text.trimmed_eq_nil_iff {s : String} : trimmed s.toList = [] ↔ isBlank s = true := by
  rw [trimmed, skipBlank, List.rdropWhile_eq_nil_iff, isBlank, List.all_eq_true]
  constructor
  · intro hend
    -- A character that is kept at the front is not white space, so none is kept.
    have hfront : s.toList.dropWhile isBlankChar = [] := by
      cases hrest : s.toList.dropWhile isBlankChar with
      | nil => rfl
      | cons c rest =>
        have hkept : isBlankChar c ≠ true := by
          have hne : s.toList.dropWhile isBlankChar ≠ [] := by simp [hrest]
          have hhead := List.head_dropWhile_not isBlankChar hne
          simpa [hrest] using hhead
        exact absurd (hend c (by simp [hrest])) hkept
    exact List.dropWhile_eq_nil_iff.1 hfront
  · intro hall c hc
    exact hall c ((List.dropWhile_sublist _).subset hc)

theorem ExtensionTable.isReferredBy_iff {x : ExtensionTable} {reference : String} :
    x.isReferredBy reference = true ↔ x.NamedBy reference := by
  obtain ⟨⟨schema, name⟩, joinColumn⟩ := x
  constructor
  · intro h
    rw [isReferredBy] at h
    by_cases hpoint : '.' ∈ reference.toList
    · obtain ⟨before, after, hsplit, hbefore⟩ := List.eq_append_cons_of_mem hpoint
      rw [hsplit, Text.splitOnce_append hbefore] at h
      obtain ⟨hschema, hname⟩ : schema = some (String.ofList before) ∧
          name = String.ofList after := by simpa using h
      have hreference : reference = String.ofList before ++ "." ++ String.ofList after := by
        apply String.ext
        simp [hsplit]
      rw [hreference]
      exact .qualified (by simpa using hbefore) (by rw [hschema, hname])
    · rw [Text.splitOnce_of_not_mem hpoint] at h
      exact .bare hpoint (by simpa using h)
  · intro h
    cases h with
    | bare hpoint htable =>
      rw [isReferredBy, Text.splitOnce_of_not_mem hpoint]
      simpa using htable
    | @qualified before after hbefore htable =>
      have hsplit : (before ++ "." ++ after).toList = before.toList ++ '.' :: after.toList := by
        simp
      obtain ⟨rfl, rfl⟩ : schema = some before ∧ name = after := by simpa using htable
      rw [isReferredBy, hsplit, Text.splitOnce_append hbefore]
      simp

/-- A list keeps a single element exactly if no other one passes. -/
theorem filter_eq_singleton_iff {α : Type} {p : α → Bool} {xs : List α} (h : xs.Nodup) {x : α} :
    xs.filter p = [x] ↔ ∀ y, y ∈ xs ∧ p y = true ↔ y = x := by
  rw [← List.perm_singleton, List.perm_ext_iff_of_nodup (h.filter _) (List.nodup_singleton x)]
  simp only [List.mem_filter, List.mem_singleton]

/-- Where every element has a partner, so has the list. -/
theorem exists_forall₂ {α β : Type} {R : α → β → Prop} {xs : List α}
    (h : ∀ x ∈ xs, ∃ y, R x y) : ∃ ys, List.Forall₂ R xs ys := by
  induction xs with
  | nil => exact ⟨[], .nil⟩
  | cons x rest ih =>
    obtain ⟨⟨y, hy⟩, hrest⟩ := List.forall_mem_cons.1 h
    obtain ⟨ys, hys⟩ := ih hrest
    exact ⟨y :: ys, .cons hy hys⟩

/-- Partners in a list that is related to another one, element by element. -/
theorem exists_mem_of_forall₂ {α β : Type} {R : α → β → Prop} {xs : List α} {ys : List β}
    (h : List.Forall₂ R xs ys) :
    (∀ x ∈ xs, ∃ y ∈ ys, R x y) ∧ ∀ y ∈ ys, ∃ x ∈ xs, R x y := by
  induction h with
  | nil => simp
  | cons hxy _ ih =>
    refine ⟨?_, ?_⟩
    · intro x hx
      rcases List.mem_cons.1 hx with rfl | hx
      · exact ⟨_, List.mem_cons_self, hxy⟩
      · obtain ⟨y, hy, hpair⟩ := ih.1 x hx
        exact ⟨y, List.mem_cons_of_mem _ hy, hpair⟩
    · intro y hy
      rcases List.mem_cons.1 hy with rfl | hy
      · exact ⟨_, List.mem_cons_self, hxy⟩
      · obtain ⟨x, hx, hpair⟩ := ih.2 y hy
        exact ⟨x, List.mem_cons_of_mem _ hx, hpair⟩

namespace EntityMapping

variable {entity : String} {m : EntityMapping}

theorem resolveExtension_eq_ok_iff {property reference : String} {extensions : List ExtensionTable}
    (hnodup : extensions.Nodup) {x : ExtensionTable} :
    resolveExtension entity property reference extensions = .ok x ↔
      ∀ y, y ∈ extensions ∧ y.NamedBy reference ↔ y = x := by
  have hsingle : extensions.filter (·.isReferredBy reference) = [x] ↔
      ∀ y, y ∈ extensions ∧ y.NamedBy reference ↔ y = x := by
    simp only [filter_eq_singleton_iff hnodup, ExtensionTable.isReferredBy_iff]
  rw [← hsingle, resolveExtension]
  split
  · rename_i hnone
    simp [hnone]
  · rename_i found hfound
    simp [hfound]
  · rename_i hseveral
    simp [hseveral]

-- ════════════════════════════════════════════════════════════════════════
-- The passes over a mapping
-- ════════════════════════════════════════════════════════════════════════

/-- The extension tables that pass the check beside those already accepted. -/
theorem checkExtensions_eq_ok_iff {primary : TableName} {accepted rest : List ExtensionTable} :
    checkExtensions entity primary accepted rest = .ok () ↔
      (∀ x ∈ rest, Text.isBlank x.joinColumn = false ∧ x.table ≠ primary ∧
        x.table ∉ accepted.map ExtensionTable.table) ∧
      (rest.map ExtensionTable.table).Nodup := by
  induction rest generalizing accepted with
  | nil => simp [checkExtensions]
  | cons x rest ih =>
    rw [checkExtensions]
    by_cases hblank : Text.isBlank x.joinColumn = true
    · simp [hblank]
    by_cases hdup : x.table = primary ∨ x.table ∈ accepted.map ExtensionTable.table
    · rw [if_neg hblank, if_pos hdup]
      simp only [reduceCtorEq, false_iff, List.forall_mem_cons]
      rintro ⟨⟨⟨-, hprimary, haccepted⟩, -⟩, -⟩
      exact hdup.elim hprimary haccepted
    · rw [if_neg hblank, if_neg hdup, ih]
      simp only [List.map_append, List.map_cons, List.map_nil, List.mem_append,
        List.mem_singleton, List.nodup_cons, List.forall_mem_cons, List.mem_map] at hdup ⊢
      grind

/-- The declared extension tables pass if they have join columns and differ in name
  from each other and from the primary table. -/
theorem checkExtensions_nil_eq_ok_iff {primary : TableName} {tables : List ExtensionTable} :
    checkExtensions entity primary [] tables = .ok () ↔
      (∀ x ∈ tables, Text.trimmed x.joinColumn.toList ≠ []) ∧
      primary ∉ tables.map ExtensionTable.table ∧ (tables.map ExtensionTable.table).Nodup := by
  rw [checkExtensions_eq_ok_iff, ← and_assoc]
  refine and_congr_left fun _ => ?_
  have hblank (x : ExtensionTable) :
      Text.isBlank x.joinColumn = false ↔ Text.trimmed x.joinColumn.toList ≠ [] := by
    rw [Ne, Text.trimmed_eq_nil_iff, Bool.not_eq_true]
  constructor
  · intro hall
    refine ⟨fun x hx => (hblank x).1 (hall x hx).1, fun hmem => ?_⟩
    obtain ⟨x, hx, hxtable⟩ := List.mem_map.1 hmem
    exact (hall x hx).2.1 hxtable
  · rintro ⟨hcolumns, hprimary⟩ x hx
    refine ⟨(hblank x).2 (hcolumns x hx), ?_, by simp⟩
    intro hxtable
    exact hprimary (List.mem_map.2 ⟨x, hx, hxtable⟩)

theorem binds_primary {p : PropertyMapping} (hp : p.extensionTable = none) :
    m.Binds p ⟨p.name, m.primaryTable, p.column, p.converter, none⟩ where
  property := rfl
  column := rfl
  converter := rfl
  primary _ := ⟨rfl, rfl⟩
  extension reference hreference := by cases hp.symm.trans hreference

theorem binds_extension {p : PropertyMapping} {reference : String}
    (hp : p.extensionTable = some reference) {x : ExtensionTable} (hmem : x ∈ m.extensionTables)
    (hx : x.NamedBy reference) :
    m.Binds p ⟨p.name, x.table, p.column, p.converter, some x.joinColumn⟩ where
  property := rfl
  column := rfl
  converter := rfl
  primary hprimary := by cases hp.symm.trans hprimary
  extension named hnamed := by
    obtain rfl : reference = named := Option.some.inj (hp.symm.trans hnamed)
    exact ⟨x, hmem, hx, rfl, rfl⟩

/-- A property is bound in one way only. -/
theorem Locates.binds_unique {p : PropertyMapping} (h : m.Locates p) {b c : PropertyBinding}
    (hb : m.Binds p b) (hc : m.Binds p c) : b = c := by
  have hplace : b.table = c.table ∧ b.joinColumn = c.joinColumn := by
    cases hp : p.extensionTable with
    | none =>
      obtain ⟨hbtable, hbjoin⟩ := hb.primary hp
      obtain ⟨hctable, hcjoin⟩ := hc.primary hp
      exact ⟨hbtable.trans hctable.symm, hbjoin.trans hcjoin.symm⟩
    | some reference =>
      obtain ⟨x, hxmem, hx, hbtable, hbjoin⟩ := hb.extension reference hp
      obtain ⟨y, hymem, hy, hctable, hcjoin⟩ := hc.extension reference hp
      obtain rfl : x = y := (h reference hp).unique ⟨hxmem, hx⟩ ⟨hymem, hy⟩
      exact ⟨hbtable.trans hctable.symm, hbjoin.trans hcjoin.symm⟩
  have hproperty := hb.property.trans hc.property.symm
  have hcolumn := hb.column.trans hc.column.symm
  have hconverter := hb.converter.trans hc.converter.symm
  rw [PropertyBinding.mk.injEq]
  exact ⟨hproperty, hplace.1, hcolumn, hconverter, hplace.2⟩

/-- What binding a property says about its reference. -/
theorem binds_of_bind (hnodup : m.extensionTables.Nodup) {p : PropertyMapping}
    {b : PropertyBinding} (h : m.bind entity p = .ok b) : m.Locates p ∧ m.Binds p b := by
  rw [bind] at h
  split at h
  · rename_i hp
    cases h
    refine ⟨?_, binds_primary hp⟩
    intro reference hreference
    cases hp.symm.trans hreference
  · rename_i reference hp
    split at h
    · cases h
    rename_i x hx
    cases h
    have hunique := (resolveExtension_eq_ok_iff hnodup).1 hx
    obtain ⟨hmem, hname⟩ := (hunique x).2 rfl
    refine ⟨?_, binds_extension hp hmem hname⟩
    intro named hnamed
    obtain rfl : reference = named := Option.some.inj (hp.symm.trans hnamed)
    exact ⟨x, (hunique x).2 rfl, fun y hy => (hunique y).1 hy⟩

theorem Locates.exists_bind (hnodup : m.extensionTables.Nodup) {p : PropertyMapping}
    (h : m.Locates p) (entity : String) : ∃ b, m.bind entity p = .ok b := by
  rw [bind]
  split
  · exact ⟨_, rfl⟩
  · rename_i reference hp
    obtain ⟨x, hx, hunique⟩ := h reference hp
    have hresolved : resolveExtension entity p.name reference m.extensionTables = .ok x := by
      refine (resolveExtension_eq_ok_iff hnodup).2 fun y => ⟨fun hy => hunique y hy, ?_⟩
      rintro rfl
      exact hx
    exact ⟨_, by rw [hresolved]⟩

theorem bind_eq_ok_iff (hnodup : m.extensionTables.Nodup) {p : PropertyMapping}
    {b : PropertyBinding} : m.bind entity p = .ok b ↔ m.Locates p ∧ m.Binds p b := by
  constructor
  · exact binds_of_bind hnodup
  · rintro ⟨hlocates, hb⟩
    obtain ⟨made, hmade⟩ := hlocates.exists_bind hnodup entity
    rw [hmade, hlocates.binds_unique hb (binds_of_bind hnodup hmade).2]

/-- The properties that can be bound beside those already bound, and what they
  are bound to. -/
theorem bindAll_eq_ok_iff (hnodup : m.extensionTables.Nodup) {bound : List PropertyBinding}
    {rest : List PropertyMapping} {bindings : List PropertyBinding} :
    m.bindAll entity bound rest = .ok bindings ↔
      ∃ new, bindings = bound ++ new ∧ List.Forall₂ m.Binds rest new ∧
        (∀ p ∈ rest, m.Locates p ∧ p.name ∉ bound.map PropertyBinding.property) ∧
        (rest.map PropertyMapping.name).Nodup := by
  -- What is already bound grows, so the claim is about every list of bindings before it.
  induction rest generalizing bound with
  | nil => simp [bindAll, eq_comm]
  | cons p rest ih =>
    rw [bindAll]
    constructor
    · intro h
      split at h
      · cases h
      rename_i b hb
      split at h
      · cases h
      rename_i hfresh
      obtain ⟨hlocates, hbinds⟩ := (bind_eq_ok_iff hnodup).1 hb
      obtain ⟨new, rfl, hnew, hrest, hnames⟩ := ih.1 h
      have hname : p.name ∉ rest.map PropertyMapping.name := by
        intro hmem
        obtain ⟨q, hq, hqname⟩ := List.mem_map.1 hmem
        exact (hrest q hq).2 (by simp [hbinds.property, hqname])
      refine ⟨b :: new, by simp, .cons hbinds hnew, ?_, List.nodup_cons.2 ⟨hname, hnames⟩⟩
      intro q hq
      rcases List.mem_cons.1 hq with rfl | hq
      · exact ⟨hlocates, hfresh⟩
      · exact ⟨(hrest q hq).1, fun hmem => (hrest q hq).2 (by simp [hmem])⟩
    · rintro ⟨new, rfl, hnew, hall, hnames⟩
      obtain ⟨b, more, hbinds, hmore, rfl⟩ := List.forall₂_cons_left_iff.1 hnew
      obtain ⟨⟨hlocates, hfresh⟩, hrest⟩ := List.forall_mem_cons.1 hall
      obtain ⟨hname, hnames⟩ := List.nodup_cons.1 hnames
      have hbind : m.bind entity p = .ok b := (bind_eq_ok_iff hnodup).2 ⟨hlocates, hbinds⟩
      simp only [hbind, if_neg hfresh]
      refine ih.2 ⟨more, by simp, hmore, ?_, hnames⟩
      intro q hq
      refine ⟨(hrest q hq).1, fun hmem => ?_⟩
      rw [List.map_append, List.mem_append, List.map_singleton, List.mem_singleton] at hmem
      rcases hmem with hmem | hmem
      · exact (hrest q hq).2 hmem
      · exact hname (List.mem_map.2 ⟨q, hq, hmem.trans hbinds.property⟩)

/-- The declared properties can be bound if their references name one extension table
  each and their names differ. -/
theorem bindAll_nil_eq_ok_iff (hnodup : m.extensionTables.Nodup)
    {properties : List PropertyMapping} {bindings : List PropertyBinding} :
    m.bindAll entity [] properties = .ok bindings ↔
      List.Forall₂ m.Binds properties bindings ∧ (∀ p ∈ properties, m.Locates p) ∧
      (properties.map PropertyMapping.name).Nodup := by
  simp [bindAll_eq_ok_iff hnodup]

theorem Binds.isExtension {p : PropertyMapping} {b : PropertyBinding} (h : m.Binds p b) :
    b.isExtension = p.extensionTable.isSome := by
  rw [PropertyBinding.isExtension]
  cases hp : p.extensionTable with
  | none => simp [(h.primary hp).2]
  | some reference =>
    obtain ⟨x, -, -, -, hjoin⟩ := h.extension reference hp
    simp [hjoin]

theorem keyIsBound_iff {bindings : List PropertyBinding}
    (h : List.Forall₂ m.Binds m.properties bindings) :
    m.keyIsBound bindings = true ↔
      ∃ p ∈ m.properties, p.extensionTable = none ∧ p.column.name = m.primaryKey := by
  rw [keyIsBound]
  generalize m.properties = properties at h
  induction h with
  | nil => simp
  | cons hb _ ih => simp [hb.isExtension, hb.column, ih]

end EntityMapping

-- ════════════════════════════════════════════════════════════════════════
-- Registration
-- ════════════════════════════════════════════════════════════════════════

/-- An entity mapping is accepted exactly if it is well formed, as the descriptor
  that lists what it declares. -/
theorem EntityDescriptor.ofMapping_eq_ok_iff {entity : String} {m : EntityMapping}
    {e : EntityDescriptor} :
    ofMapping entity m = .ok e ↔ m.WellFormed ∧ e.Describes entity m := by
  rw [ofMapping]
  constructor
  · intro h
    -- Each pass that succeeds gives the clauses it is there for.
    split at h
    · cases h
    rename_i hcheck
    obtain ⟨hcolumns, hprimary, htables⟩ := EntityMapping.checkExtensions_nil_eq_ok_iff.1 hcheck
    split at h
    · cases h
    rename_i bindings hbind
    obtain ⟨hbindings, hlocates, hproperties⟩ :=
      (EntityMapping.bindAll_nil_eq_ok_iff htables.of_map).1 hbind
    split at h
    · rename_i hkey
      cases h
      have hdeclared := (EntityMapping.keyIsBound_iff hbindings).1 hkey
      exact ⟨⟨hcolumns, htables, hprimary, hproperties, hlocates, hdeclared⟩,
        ⟨rfl, rfl, rfl, rfl, hbindings⟩⟩
    · cases h
  · rintro ⟨hm, he⟩
    obtain ⟨name, primaryTable, primaryKey, extensionTables, bindings⟩ := e
    obtain ⟨rfl, rfl, rfl, rfl, hbindings⟩ := he
    have hcheck : EntityMapping.checkExtensions name m.primaryTable [] m.extensionTables =
        .ok () :=
      EntityMapping.checkExtensions_nil_eq_ok_iff.2
        ⟨hm.joinColumn_ne_blank, hm.primary_not_mem, hm.tables_nodup⟩
    have hbind : m.bindAll name [] m.properties = .ok bindings :=
      (EntityMapping.bindAll_nil_eq_ok_iff hm.tables_nodup.of_map).2
        ⟨hbindings, hm.locates, hm.properties_nodup⟩
    have hkey : m.keyIsBound bindings = true :=
      (EntityMapping.keyIsBound_iff hbindings).2 hm.key_declared
    simp only [hcheck, hbind, if_pos hkey]

theorem EntityMapping.WellFormed.exists_ofMapping {m : EntityMapping} (h : m.WellFormed)
    (entity : String) : ∃ e, EntityDescriptor.ofMapping entity m = .ok e := by
  have hnodup : m.extensionTables.Nodup := h.tables_nodup.of_map
  have hbound : ∀ p ∈ m.properties, ∃ b, m.Binds p b := by
    intro p hp
    obtain ⟨b, hb⟩ := (h.locates p hp).exists_bind hnodup entity
    exact ⟨b, (binds_of_bind hnodup hb).2⟩
  obtain ⟨bindings, hbindings⟩ := exists_forall₂ hbound
  exact ⟨⟨entity, m.primaryTable, m.primaryKey, m.extensionTables, bindings⟩,
    EntityDescriptor.ofMapping_eq_ok_iff.2 ⟨h, rfl, rfl, rfl, rfl, hbindings⟩⟩

namespace Registry

variable {m : Mapping} {r : Registry} {entity : String}

theorem ofMapping_eq_ok_iff :
    ofMapping m = .ok r ↔ m.entities.mapM EntityDescriptor.ofMapping = .ok r.entities := by
  rw [ofMapping]
  obtain ⟨entities⟩ := r
  cases m.entities.mapM EntityDescriptor.ofMapping <;> simp

/-- The entities of a registry are those of its mapping. -/
theorem keys_of_ofMapping (hr : ofMapping m = .ok r) : r.entities.keys = m.entities.keys :=
  Dict.keys_mapM (ofMapping_eq_ok_iff.1 hr)

/-- A registered entity has been made from its mapping. -/
theorem exists_mapping (hr : ofMapping m = .ok r) {e : EntityDescriptor}
    (he : r.entities.find? entity = some e) :
    ∃ em, m.entities.find? entity = some em ∧ EntityDescriptor.ofMapping entity em = .ok e :=
  Dict.exists_of_find?_mapM (ofMapping_eq_ok_iff.1 hr) he

/-- Every entity of a mapping is registered. -/
theorem exists_entity (hr : ofMapping m = .ok r) {em : EntityMapping}
    (hem : m.entities.find? entity = some em) :
    ∃ e, r.entities.find? entity = some e ∧ EntityDescriptor.ofMapping entity em = .ok e := by
  have hkey : entity ∈ r.entities.keys := by
    rw [keys_of_ofMapping hr, ← Dict.isSome_find?_iff, hem]
    rfl
  obtain ⟨e, he⟩ := Option.isSome_iff_exists.1 (Dict.isSome_find?_iff.2 hkey)
  obtain ⟨em', hem', hmade⟩ := exists_mapping hr he
  obtain rfl : em = em' := Option.some.inj (hem.symm.trans hem')
  exact ⟨e, he, hmade⟩

theorem descriptor_eq_ok_iff {e : EntityDescriptor} :
    r.resolver.descriptor entity = .ok e ↔ r.entities.find? entity = some e := by
  simp only [resolver]
  cases r.entities.find? entity <;> simp

/-- Registration accepts exactly the well formed mappings. The registry then holds
  the entities of the mapping, each as the descriptor that lists what is declared
  for it. -/
theorem registered_iff_wellFormed (m : Mapping) :
    ((∃ r, ofMapping m = .ok r) ↔
      ∀ entity em, m.entities.find? entity = some em → em.WellFormed) ∧
    ∀ r, ofMapping m = .ok r → r.entities.keys = m.entities.keys ∧
      ∀ entity em, m.entities.find? entity = some em →
        ∃ e, r.entities.find? entity = some e ∧ e.Describes entity em := by
  refine ⟨⟨?_, ?_⟩, ?_⟩
  · rintro ⟨r, hr⟩ entity em hem
    obtain ⟨e, -, hmade⟩ := exists_entity hr hem
    exact (EntityDescriptor.ofMapping_eq_ok_iff.1 hmade).1
  · intro hall
    have hentities : ∃ entities, m.entities.mapM EntityDescriptor.ofMapping = .ok entities :=
      Dict.exists_mapM_iff.2 fun entity em hem => (hall entity em hem).exists_ofMapping entity
    obtain ⟨entities, hmade⟩ := hentities
    exact ⟨⟨entities⟩, ofMapping_eq_ok_iff.2 hmade⟩
  · intro r hr
    refine ⟨keys_of_ofMapping hr, fun entity em hem => ?_⟩
    obtain ⟨e, he, hmade⟩ := exists_entity hr hem
    exact ⟨e, he, (EntityDescriptor.ofMapping_eq_ok_iff.1 hmade).2⟩

end Registry

namespace Storefront

/-- Customers with two kinds of notes, in tables of one name and two schemas, and
  with an archive that is called like the primary table. -/
def notedCustomer : EntityMapping where
  primaryTable := ⟨none, "customers"⟩
  primaryKey := "key"
  extensionTables :=
    [⟨⟨some "crm", "customer_notes"⟩, "customer_key"⟩,
     ⟨⟨some "support", "customer_notes"⟩, "customer_key"⟩, ⟨⟨some "archive", "customers"⟩, "key"⟩]
  properties :=
    [property "key" "key" .uuid .nonNullable,
     extensionProperty "note" "crm.customer_notes" "note" .text .nullable,
     extensionProperty "ticket" "support.customer_notes" "note" .text .nullable,
     extensionProperty "archivedAt" "customers" "archived_at" .timestamp .nonNullable]

/-- The references of these customers tell their extension tables apart. -/
theorem registered_notedCustomer :
    ∃ r, Registry.ofMapping ⟨.ofList [("Customer", notedCustomer)]⟩ = .ok r ∧
      notedCustomer.WellFormed ∧ r.entities.keys = ["Customer"] ∧
      ∃ e, r.entities.find? "Customer" = some e ∧ e.Describes "Customer" notedCustomer := by
  obtain ⟨r, hr⟩ : ∃ r, Registry.ofMapping ⟨.ofList [("Customer", notedCustomer)]⟩ = .ok r :=
    ⟨_, rfl⟩
  obtain ⟨haccepted, hheld⟩ :=
    Registry.registered_iff_wellFormed ⟨.ofList [("Customer", notedCustomer)]⟩
  obtain ⟨hkeys, hentities⟩ := hheld r hr
  exact ⟨r, hr, haccepted.1 ⟨r, hr⟩ "Customer" notedCustomer rfl, hkeys,
    hentities "Customer" notedCustomer rfl⟩

end Storefront

end EntityQuery
