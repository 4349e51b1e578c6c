import Mathlib.Data.List.Induction
import Mathlib.Data.List.Nodup
import EntityQuery.Proofs.Mapping.Registration
import EntityQuery.Proofs.Translation.Parts

/-!
# The joins of a translated statement

Over a registered entity the joins are made by a simple rule: one join for each
extension table that keeps a mentioned property, in the order of first mention.

## Main definitions

- `PropertyBinding.extension?` — the extension table a property is kept in
- `EntityDescriptor.extensionsOf` — the extension tables of mentioned properties
- `EntityDescriptor.mentionedTables` — the extension tables that criteria mention

## Main statements

- `EntityDescriptor.mentionAll_eq` — the joins after properties have been mentioned
-/

namespace EntityQuery

open Sql

/-- The list without repetitions ends with a last element that is new. -/
theorem eraseDups_concat {α : Type} [BEq α] [LawfulBEq α] {xs : List α} {x : α} :
    (xs ++ [x]).eraseDups = if xs.contains x then xs.eraseDups else xs.eraseDups ++ [x] := by
  rw [List.eraseDups_append]
  by_cases hx : x ∈ xs <;> simp [List.removeAll, hx, List.eraseDups_cons]

/-- Nothing is repeated in a list without repetitions. -/
theorem nodup_eraseDups {α : Type} [BEq α] [LawfulBEq α] (xs : List α) : xs.eraseDups.Nodup := by
  induction xs using List.reverseRecOn with
  | nil => simp
  | append_singleton xs x ih =>
    rw [eraseDups_concat]
    split
    · exact ih
    · rename_i hx
      refine List.nodup_append.2 ⟨ih, by simp, ?_⟩
      intro y hy z hz heq
      rw [List.mem_singleton.1 hz] at heq
      exact hx (by simpa [heq] using List.mem_eraseDups.1 hy)

/-- The extension table a property is kept in. -/
def PropertyBinding.extension? (b : PropertyBinding) : Option ExtensionTable :=
  b.joinColumn.map fun joinColumn => ⟨b.table, joinColumn⟩

namespace EntityDescriptor

variable {e : EntityDescriptor}

/-- The join of an extension table. -/
def join (e : EntityDescriptor) (x : ExtensionTable) : Join :=
  e.joinOf x.table x.joinColumn

/-- The extension tables of mentioned properties, in the order of mention. -/
def extensionsOf (e : EntityDescriptor) (properties : List String) : List ExtensionTable :=
  properties.filterMap fun property => (e.binding property).toOption.bind (·.extension?)

/-- A mentioned property that is kept in an extension table mentions the table. -/
theorem mem_extensionsOf {properties : List String} {x : ExtensionTable} :
    x ∈ e.extensionsOf properties ↔
      ∃ property ∈ properties, ∃ b, e.binding property = .ok b ∧ b.extension? = some x := by
  rw [extensionsOf, List.mem_filterMap]
  refine exists_congr fun property => and_congr_right fun _ => ?_
  cases e.binding property <;> simp [Except.toOption]

theorem WellFormed.extension?_mem (h : e.WellFormed) {b : PropertyBinding} (hb : b ∈ e.bindings)
    {x : ExtensionTable} (hx : b.extension? = some x) : x ∈ e.extensionTables := by
  obtain ⟨joinColumn, hjoin, rfl⟩ := Option.map_eq_some_iff.1 hx
  exact h.mem_extensionTables b hb joinColumn hjoin

theorem WellFormed.extensionsOf_subset (h : e.WellFormed) {properties : List String}
    {x : ExtensionTable} (hx : x ∈ e.extensionsOf properties) : x ∈ e.extensionTables := by
  obtain ⟨property, -, b, hb, hbx⟩ := mem_extensionsOf.1 hx
  exact h.extension?_mem (mem_of_binding hb).1 hbx

/-- Declared extension tables of one name are one table. -/
theorem WellFormed.eq_of_table_eq (h : e.WellFormed) {x y : ExtensionTable}
    (hx : x ∈ e.extensionTables) (hy : y ∈ e.extensionTables) (hxy : x.table = y.table) :
    x = y :=
  List.inj_on_of_nodup_map h.tables_nodup hx hy hxy

/-- The primary table and extension tables without repetitions have names that
  differ. -/
theorem WellFormed.nodup_tables (h : e.WellFormed) {tables : List ExtensionTable}
    (htables : ∀ x ∈ tables, x ∈ e.extensionTables) (hnodup : tables.Nodup) :
    (e.primaryTable :: tables.map ExtensionTable.table).Nodup := by
  refine List.nodup_cons.2 ⟨fun hmem => ?_, ?_⟩
  · obtain ⟨x, hx, hxtable⟩ := List.mem_map.1 hmem
    exact h.primary_not_mem (List.mem_map.2 ⟨x, htables x hx, hxtable⟩)
  · exact hnodup.map_on fun x hx y hy hxy => h.eq_of_table_eq (htables x hx) (htables y hy) hxy

/-- Mentioning a property joins its extension table if none of the mentioned
  tables is it. -/
theorem mention_map_join (h : e.WellFormed) {b : PropertyBinding} (hb : b ∈ e.bindings)
    {tables : List ExtensionTable} (htables : ∀ x ∈ tables, x ∈ e.extensionTables) :
    e.mention b (tables.eraseDups.map e.join) =
      (tables ++ b.extension?.toList).eraseDups.map e.join := by
  rw [mention]
  split
  · rename_i hjoin
    simp [PropertyBinding.extension?, hjoin]
  · rename_i joinColumn hjoin
    let x : ExtensionTable := ⟨b.table, joinColumn⟩
    have hbx : b.extension? = some x := by simp [PropertyBinding.extension?, hjoin, x]
    have hx : x ∈ e.extensionTables := h.extension?_mem hb hbx
    -- Joins are told apart by their table, declared extension tables by their table as well.
    have hmem : b.table ∈ (tables.eraseDups.map e.join).map Join.table ↔ x ∈ tables := by
      simp only [List.mem_map, List.mem_eraseDups, exists_exists_and_eq_and, join, joinOf]
      constructor
      · rintro ⟨y, hy, hyx⟩
        rw [← h.eq_of_table_eq (htables y hy) hx hyx]
        exact hy
      · intro hxt
        exact ⟨x, hxt, rfl⟩
    rw [hbx, Option.toList_some, eraseDups_concat]
    by_cases hxt : x ∈ tables
    · rw [if_pos (hmem.2 hxt), if_pos (by simpa using hxt)]
    · rw [if_neg (mt hmem.1 hxt), if_neg (by simpa using hxt), List.map_append]
      rfl

/-- Mentioning properties after others: one join for each extension table
  mentioned, in the order of first mention. -/
theorem mentionAll_map_join (h : e.WellFormed) {properties : List String}
    {tables : List ExtensionTable} (htables : ∀ x ∈ tables, x ∈ e.extensionTables) :
    e.mentionAll properties (tables.eraseDups.map e.join) =
      (tables ++ e.extensionsOf properties).eraseDups.map e.join := by
  induction properties generalizing tables with
  | nil => simp [mentionAll, extensionsOf]
  | cons property rest ih =>
    rw [mentionAll]
    cases hb : e.binding property with
    | error err =>
      simp only [ih htables]
      simp [extensionsOf, hb, Except.toOption]
    | ok b =>
      have hmem : b ∈ e.bindings := (mem_of_binding hb).1
      have hmore : ∀ x ∈ tables ++ b.extension?.toList, x ∈ e.extensionTables := by
        intro x hx
        rcases List.mem_append.1 hx with hx | hx
        · exact htables x hx
        · exact h.extension?_mem hmem (by simpa using hx)
      simp only [mention_map_join h hmem htables, ih hmore]
      cases hbx : b.extension? <;> simp [extensionsOf, hb, hbx, Except.toOption]

/-- The joins after properties have been mentioned: one for each extension table
  mentioned, in the order of first mention. -/
theorem mentionAll_eq (h : e.WellFormed) {properties : List String} :
    e.mentionAll properties [] = (e.extensionsOf properties).eraseDups.map e.join :=
  mentionAll_map_join h (List.forall_mem_nil _)

/-- The extension tables that criteria mention, each once. -/
def mentionedTables (e : EntityDescriptor) (c : Criteria) : List ExtensionTable :=
  (e.extensionsOf c.referencedProperties).eraseDups

theorem WellFormed.mentionedTables_subset (h : e.WellFormed) {c : Criteria} :
    ∀ x ∈ e.mentionedTables c, x ∈ e.extensionTables :=
  fun _ hx => h.extensionsOf_subset (List.mem_eraseDups.1 hx)

/-- The tables of some of the properties that criteria mention are mentioned. -/
theorem mem_mentionedTables {c : Criteria} {properties : List String}
    (hproperties : ∀ property ∈ properties, property ∈ c.referencedProperties)
    {x : ExtensionTable} (hx : x ∈ e.extensionsOf properties) : x ∈ e.mentionedTables c := by
  obtain ⟨property, hproperty, found⟩ := mem_extensionsOf.1 hx
  exact List.mem_eraseDups.2 (mem_extensionsOf.2 ⟨property, hproperties property hproperty, found⟩)

end EntityDescriptor

end EntityQuery
