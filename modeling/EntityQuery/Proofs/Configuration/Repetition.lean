import Mathlib.Data.List.Perm.Subperm
import EntityQuery.Proofs.Configuration.RoundTrip
import EntityQuery.Proofs.Mapping.Acceptance

/-!
# Entities that are listed twice

A document may list several entities under one name. The last of them is kept and the others are
lost before the mapping is checked, so a repeated name is refused only if something else is wrong
with what is kept.

## Main definitions

- `Directory.Starts` — the configuration of a directory can be put to use
- `Directory.DiscardsNothing` — it cannot if its document repeats a name

## Main statements

- `Directory.discardsNothing_iff` — when a repeated name is refused, and what is registered if
  it is not
-/

namespace EntityQuery

/-- The configuration of a directory can be loaded and put to use. -/
def Directory.Starts (d : Directory) (runtime : Runtime) : Prop :=
  ∃ c, Configuration.load d = .ok c ∧ c.activate = .ok runtime

/-- A directory whose document lists two entities under one name cannot be put to use. -/
def Directory.DiscardsNothing (d : Directory) : Prop :=
  ∀ l, d.Lists l → ¬ l.names.Nodup → ∀ runtime, ¬ d.Starts runtime

theorem Configuration.activate_eq_ok_iff {c : Configuration} {runtime : Runtime} :
    c.activate = .ok runtime ↔
      runtime.dialect = c.dialect ∧ Registry.ofMapping c.mapping = .ok runtime.registry := by
  obtain ⟨dialect, registry⟩ := runtime
  rw [activate]
  cases Registry.ofMapping c.mapping <;> simp [eq_comm]

namespace Directory

variable {d : Directory} {runtime : Runtime}

theorem Lists.eq {l l' : Configuration.Listing} (h : d.Lists l) (h' : d.Lists l') : l = l' := by
  obtain ⟨text, htext, hl⟩ := h
  obtain ⟨text', htext', hl'⟩ := h'
  obtain rfl : text = text' := Except.ok.inj (htext.symm.trans htext')
  exact Except.ok.inj (hl.symm.trans hl')

/-- What is put to use is what is kept of the document. -/
theorem starts_iff : d.Starts runtime ↔ ∃ l, d.Lists l ∧ l.kept.activate = .ok runtime := by
  constructor
  · rintro ⟨c, hload, hactivate⟩
    obtain ⟨l, hl, rfl⟩ := Configuration.load_eq_ok_iff.1 hload
    exact ⟨l, hl, hactivate⟩
  · rintro ⟨l, hl, hactivate⟩
    exact ⟨l.kept, Configuration.load_eq_ok_iff.2 ⟨l, hl, rfl⟩, hactivate⟩

end Directory

namespace Configuration.Listing

variable (l : Listing) {runtime : Runtime}

/-- The registry has the listed names. -/
theorem mem_keys_iff (h : l.kept.activate = .ok runtime) {name : String} :
    name ∈ runtime.registry.entities.keys ↔ name ∈ l.names := by
  rw [Registry.keys_of_ofMapping (activate_eq_ok_iff.1 h).2]
  exact Dict.mem_keys_ofList

/-- It has as many entities as the document lists exactly if no name is repeated. -/
theorem length_keys_eq_iff (h : l.kept.activate = .ok runtime) :
    runtime.registry.entities.keys.length = l.members.length ↔ l.names.Nodup := by
  have hlength : l.members.length = l.names.length := by simp [names, Entries.keys]
  have hkeys : runtime.registry.entities.keys.Nodup :=
    runtime.registry.entities.sorted.imp String.ne_of_lt
  have hmem : ∀ name, name ∈ runtime.registry.entities.keys ↔ name ∈ l.names :=
    fun _ => l.mem_keys_iff h
  rw [hlength]
  constructor
  · intro hsame
    have hsub : runtime.registry.entities.keys.Subperm l.names :=
      List.subperm_of_subset hkeys fun name hname => (hmem name).1 hname
    exact (hsub.perm_of_length_le hsame.ge).nodup hkeys
  · intro hnames
    exact ((List.perm_ext_iff_of_nodup hkeys hnames).2 hmem).length_eq

/-- Every registered entity is the last one that is listed under its name. -/
theorem exists_last (h : l.kept.activate = .ok runtime) {name : String} {e : EntityDescriptor}
    (he : runtime.registry.entities.find? name = some e) :
    ∃ m, Entries.find? name l.members.reverse = some m ∧ e.Describes name m := by
  obtain ⟨m, hm, hmade⟩ := Registry.exists_mapping (activate_eq_ok_iff.1 h).2 he
  exact ⟨m, Dict.find?_ofList.symm.trans hm, (EntityDescriptor.ofMapping_eq_ok_iff.1 hmade).2⟩

end Configuration.Listing

/-- A document that repeats a name is refused exactly if the entities that are kept are. In a
  directory that can be put to use the registry has the listed names, each for the last entity
  that is listed under it, and as many entities as are listed only if no name is repeated. -/
theorem Directory.discardsNothing_iff (d : Directory) :
    (d.DiscardsNothing ↔
      ∀ l, d.Lists l → l.names.Nodup ∨ ∃ e, l.kept.activate = .error e) ∧
    ∀ runtime, d.Starts runtime → ∃ l, d.Lists l ∧
      (∀ name, name ∈ runtime.registry.entities.keys ↔ name ∈ l.names) ∧
      (∀ name e, runtime.registry.entities.find? name = some e →
        ∃ m, Entries.find? name l.members.reverse = some m ∧ e.Describes name m) ∧
      (runtime.registry.entities.keys.length = l.members.length ↔ l.names.Nodup) := by
  refine ⟨⟨fun h l hl => ?_, fun h l hl hrepeated runtime hstarts => ?_⟩, fun runtime h => ?_⟩
  · by_cases hnodup : l.names.Nodup
    · exact .inl hnodup
    · have hrefused : ∀ runtime, l.kept.activate ≠ .ok runtime :=
        fun runtime hactivate => h l hl hnodup runtime (starts_iff.2 ⟨l, hl, hactivate⟩)
      cases hactivate : l.kept.activate with
      | error e => exact .inr ⟨e, rfl⟩
      | ok runtime => exact (hrefused runtime hactivate).elim
  · obtain ⟨l', hl', hactivate⟩ := starts_iff.1 hstarts
    obtain rfl := hl.eq hl'
    rcases h l hl with hnodup | ⟨e, he⟩
    · exact hrepeated hnodup
    · rw [he] at hactivate
      cases hactivate
  · obtain ⟨l, hl, hactivate⟩ := starts_iff.1 h
    exact ⟨l, hl, fun _ => l.mem_keys_iff hactivate, fun _ _ he => l.exists_last hactivate he,
      l.length_keys_eq_iff hactivate⟩

namespace Storefront

/-- Customers as they were kept before, listed in front of customers as they are kept now. -/
def replaced : Configuration.Listing where
  dialect := .postgresql
  members :=
    [("Customer", ⟨⟨none, "clients"⟩, "id", [], [property "key" "id" .uuid .nonNullable]⟩),
     ("Customer", ⟨⟨none, "customers"⟩, "key", [], [property "key" "key" .uuid .nonNullable]⟩)]

/-- The clients are lost. -/
theorem not_discardsNothing_replaced :
    ¬ Directory.DiscardsNothing ⟨.file replaced.fileText.toUTF8, .absent⟩ := by
  intro h
  have hlists : Directory.Lists ⟨.file replaced.fileText.toUTF8, .absent⟩ replaced :=
    ⟨_, Entry.readText_file _, replaced.ofText_fileText⟩
  obtain ⟨runtime, hactivate⟩ : ∃ runtime, replaced.kept.activate = .ok runtime := ⟨_, rfl⟩
  exact h replaced hlists (by decide) runtime (Directory.starts_iff.2 ⟨_, hlists, hactivate⟩)

end Storefront

end EntityQuery
