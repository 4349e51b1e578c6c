import Mathlib.Data.List.Forall2
import EntityQuery.Proofs.Mapping.Acceptance
import EntityQuery.Translation.Select

/-!
# Joining families of entities

The entities of a domain can be registered in families and joined into one
resolver. If the families are the parts of one mapping, the joined resolver answers
like the registry of the whole mapping. Families that share an entity are refused.

## Main definitions

- `Mapping.DividedInto` — each entity of a mapping stands in one of its families
- `Resolver.AnswersLike` — two resolvers give equal answers
- `Resolver.FirstClash` — the smallest name that the first clashing family shares

## Main statements

- `Resolver.join_eq_error_iff` — which clash is reported
- `Resolver.join_families` — families of a mapping join to its registry, and only
  shared names keep resolvers from being joined
-/

namespace EntityQuery

/-- Every entity of a mapping stands in exactly one of several families, as it is
  declared in the mapping, and nothing else stands there. -/
structure Mapping.DividedInto (m : Mapping) (families : List Mapping) : Prop where
  /-- No entity stands in two families. -/
  disjoint : families.Pairwise fun a b => a.entities.keys.Disjoint b.entities.keys
  /-- The families hold the entities of the mapping. -/
  find?_iff : ∀ entity em, m.entities.find? entity = some em ↔
    ∃ family ∈ families, family.entities.find? entity = some em

/-- Dictionaries with the same keys list them in the same order. -/
theorem Dict.keys_eq_of_mem_iff {α β : Type} {d : Dict α} {e : Dict β}
    (h : ∀ key, key ∈ d.keys ↔ key ∈ e.keys) : d.keys = e.keys := by
  have hd : d.keys.Pairwise (· < ·) := d.sorted
  have he : e.keys.Pairwise (· < ·) := e.sorted
  have hperm : d.keys.Perm e.keys :=
    (List.perm_ext_iff_of_nodup (hd.imp String.ne_of_lt) (he.imp String.ne_of_lt)).2 h
  exact hperm.eq_of_pairwise (fun a b _ _ hab hba => absurd (String.lt_trans hab hba)
    (String.lt_irrefl a)) hd he

namespace Resolver

/-- Two resolvers know the same entities and give equal answers to every question
  about them, errors included. -/
structure AnswersLike (a b : Resolver) : Prop where
  entityNames : a.entityNames = b.entityNames
  descriptor : ∀ entity, a.descriptor entity = b.descriptor entity
  resolve : ∀ entity property, a.resolve entity property = b.resolve entity property
  primaryTable : ∀ entity, a.primaryTable entity = b.primaryTable entity
  extensionTables : ∀ entity, a.extensionTables entity = b.extensionTables entity
  statement : ∀ d entity c, a.statement d entity c = b.statement d entity c
  countStatement : ∀ d entity c, a.countStatement d entity c = b.countStatement d entity c

/-- Resolvers at two different positions share a name; they may be one and the same. -/
def ShareName (families : List Resolver) : Prop :=
  ∃ (i j : Nat) (a b : Resolver) (name : String), i ≠ j ∧ families[i]? = some a ∧
    families[j]? = some b ∧ name ∈ a.entityNames ∧ name ∈ b.entityNames

/-- The smallest of the names that the first family with a clash shares with
  earlier families. -/
def FirstClash (families : List Resolver) (name : String) : Prop :=
  ∃ before family after, families = before ++ family :: after ∧
    before.Pairwise (fun a b => a.entityNames.Disjoint b.entityNames) ∧
    (name ∈ family.entityNames ∧ ∃ earlier ∈ before, name ∈ earlier.entityNames) ∧
    ∀ other ∈ family.entityNames, (∃ earlier ∈ before, other ∈ earlier.entityNames) →
      ¬ other < name

/-- The routes lead every name of some families to a family that has it. -/
def RoutesTo (families : List Resolver) (routes : Dict Resolver) : Prop :=
  ∀ name family, routes.find? name = some family ↔ family ∈ families ∧ name ∈ family.entityNames

-- ════════════════════════════════════════════════════════════════════════
-- Routing one family
-- ════════════════════════════════════════════════════════════════════════

theorem mem_sortedNames {r : Resolver} {name : String} :
    name ∈ r.sortedNames ↔ name ∈ r.entityNames := by
  rw [sortedNames, Dict.mem_keys_ofList, Entries.keys, List.map_map]
  simp

theorem pairwise_sortedNames (r : Resolver) : r.sortedNames.Pairwise (· < ·) :=
  Dict.sorted _

/-- Every answer is made from the names and the descriptors. -/
theorem AnswersLike.of_descriptor {a b : Resolver} (hnames : a.entityNames = b.entityNames)
    (h : ∀ entity, a.descriptor entity = b.descriptor entity) : a.AnswersLike b where
  entityNames := hnames
  descriptor := h
  resolve entity property := by simp only [Resolver.resolve, h]
  primaryTable entity := by simp only [Resolver.primaryTable, h]
  extensionTables entity := by simp only [Resolver.extensionTables, h]
  statement d entity c := by simp only [Resolver.statement, Resolver.select, h]
  countStatement d entity c := by simp only [Resolver.countStatement, Resolver.countSelect, h]

variable {family : Resolver} {routes : Dict Resolver}

/-- Names that are not routed yet lead to the family afterwards. -/
theorem exists_route (family : Resolver) {names : List String} (hnodup : names.Nodup)
    (hfree : ∀ name ∈ names, name ∉ routes.keys) :
    ∃ routed, route family routes names = .ok routed ∧
      ∀ name, routed.find? name = if name ∈ names then some family else routes.find? name := by
  induction names generalizing routes with
  | nil => exact ⟨routes, rfl, by simp⟩
  | cons first rest ih =>
    obtain ⟨hfirst, hrest⟩ := List.nodup_cons.1 hnodup
    have hnone : routes.find? first = none := by
      rw [← Option.not_isSome_iff_eq_none, Dict.isSome_find?_iff]
      exact hfree first List.mem_cons_self
    have hstill : ∀ name ∈ rest, name ∉ (routes.insert first family).keys := by
      intro name hname
      have hne : name ≠ first := fun heq => hfirst (heq ▸ hname)
      rw [← Dict.isSome_find?_iff, Dict.find?_insert, if_neg hne, Dict.isSome_find?_iff]
      exact hfree name (List.mem_cons_of_mem _ hname)
    obtain ⟨routed, hrouted, hfind⟩ := ih hrest hstill
    refine ⟨routed, ?_, fun name => ?_⟩
    · rw [route, hnone]
      exact hrouted
    · rw [hfind, Dict.find?_insert]
      by_cases hname : name = first <;> simp [hname]

/-- Routing stops at the first name that is routed already. -/
theorem route_of_mem_keys {before after : List String} {name : String}
    (hnodup : before.Nodup) (hfree : ∀ other ∈ before, other ∉ routes.keys)
    (hname : name ∈ routes.keys) :
    route family routes (before ++ name :: after) = .error (.duplicateEntity name) := by
  induction before generalizing routes with
  | nil =>
    obtain ⟨earlier, hearlier⟩ := Option.isSome_iff_exists.1 (Dict.isSome_find?_iff.2 hname)
    rw [List.nil_append, route, hearlier]
  | cons first rest ih =>
    obtain ⟨hfirst, hrest⟩ := List.nodup_cons.1 hnodup
    have hnone : routes.find? first = none := by
      rw [← Option.not_isSome_iff_eq_none, Dict.isSome_find?_iff]
      exact hfree first List.mem_cons_self
    have hkeys : ∀ other, other ∈ (routes.insert first family).keys ↔
        other = first ∨ other ∈ routes.keys := by
      intro other
      rw [← Dict.isSome_find?_iff, ← Dict.isSome_find?_iff, Dict.find?_insert]
      by_cases hother : other = first <;> simp [hother]
    rw [List.cons_append, route, hnone]
    refine ih hrest (fun other hother => ?_) ((hkeys name).2 (.inr hname))
    rw [hkeys, not_or]
    exact ⟨fun heq => hfirst (heq ▸ hother), hfree other (List.mem_cons_of_mem _ hother)⟩

-- ════════════════════════════════════════════════════════════════════════
-- Routing several families
-- ════════════════════════════════════════════════════════════════════════

variable {done : List Resolver}

theorem RoutesTo.mem_keys (h : RoutesTo done routes) {name : String} :
    name ∈ routes.keys ↔ ∃ earlier ∈ done, name ∈ earlier.entityNames := by
  rw [← Dict.isSome_find?_iff, Option.isSome_iff_exists]
  exact exists_congr fun earlier => h name earlier

/-- One more family without a clash is routed beside the earlier ones. -/
theorem RoutesTo.exists_route (h : RoutesTo done routes)
    (hfree : ∀ earlier ∈ done, earlier.entityNames.Disjoint family.entityNames) :
    ∃ routed, route family routes family.sortedNames = .ok routed ∧
      RoutesTo (done ++ [family]) routed := by
  have hfresh : ∀ name ∈ family.entityNames, ∀ earlier ∈ done, name ∉ earlier.entityNames :=
    fun name hname earlier hearlier hmem => hfree earlier hearlier hmem hname
  have hkeys : ∀ name ∈ family.sortedNames, name ∉ routes.keys := by
    intro name hname hmem
    obtain ⟨earlier, hearlier, hshared⟩ := h.mem_keys.1 hmem
    exact hfresh name (mem_sortedNames.1 hname) earlier hearlier hshared
  have hnodup : family.sortedNames.Nodup := (pairwise_sortedNames family).imp String.ne_of_lt
  obtain ⟨routed, hrouted, hfind⟩ := Resolver.exists_route family hnodup hkeys
  refine ⟨routed, hrouted, fun name found => ?_⟩
  rw [hfind, List.mem_append, List.mem_singleton]
  by_cases hname : name ∈ family.sortedNames
  · have hmem : name ∈ family.entityNames := mem_sortedNames.1 hname
    rw [if_pos hname, Option.some.injEq]
    constructor
    · rintro rfl
      exact ⟨.inr rfl, hmem⟩
    · rintro ⟨hfound | rfl, hshared⟩
      · exact absurd hshared (hfresh name hmem found hfound)
      · rfl
  · have hmem : name ∉ family.entityNames := fun hmem => hname (mem_sortedNames.2 hmem)
    rw [if_neg hname, h]
    constructor
    · rintro ⟨hfound, hshared⟩
      exact ⟨.inl hfound, hshared⟩
    · rintro ⟨hfound | rfl, hshared⟩
      · exact ⟨hfound, hshared⟩
      · exact absurd hshared hmem

/-- Families without a clash are all routed. -/
theorem RoutesTo.exists_routeAll (h : RoutesTo done routes) (rest : List Resolver)
    (hdisjoint : (done ++ rest).Pairwise fun a b => a.entityNames.Disjoint b.entityNames) :
    ∃ routed, routeAll routes rest = .ok routed ∧ RoutesTo (done ++ rest) routed := by
  induction rest generalizing done routes with
  | nil => exact ⟨routes, rfl, by rwa [List.append_nil]⟩
  | cons family rest ih =>
    have hfree : ∀ earlier ∈ done, earlier.entityNames.Disjoint family.entityNames :=
      fun earlier hearlier =>
        (List.pairwise_append.1 hdisjoint).2.2 earlier hearlier family List.mem_cons_self
    obtain ⟨routed, hrouted, hroutes⟩ := h.exists_route hfree
    rw [List.append_cons] at hdisjoint ⊢
    obtain ⟨all, hall, hend⟩ := ih hroutes hdisjoint
    refine ⟨all, ?_, hend⟩
    rw [routeAll, hrouted]
    exact hall

theorem routesTo_empty : RoutesTo [] Dict.empty := by
  intro name family
  simp [Dict.empty, Dict.find?, Entries.find?]

theorem routeAll_append {before after : List Resolver} :
    routeAll routes (before ++ after) =
      (routeAll routes before).bind fun routed => routeAll routed after := by
  induction before generalizing routes with
  | nil => rfl
  | cons family rest ih =>
    rw [List.cons_append, routeAll, routeAll]
    cases route family routes family.sortedNames with
    | error e => rfl
    | ok routed => exact ih

/-- The first clash stops the routing. -/
theorem join_of_firstClash {families : List Resolver} {name : String}
    (h : FirstClash families name) : join families = .error (.duplicateEntity name) := by
  obtain ⟨before, family, after, rfl, hbefore, ⟨hname, hclash⟩, hleast⟩ := h
  obtain ⟨routes, hroutes, hto⟩ := routesTo_empty.exists_routeAll before hbefore
  -- The names are tried in order, so those before the smallest shared one are free.
  obtain ⟨smaller, larger, hsplit⟩ := List.append_of_mem (mem_sortedNames.2 hname)
  have hsorted := pairwise_sortedNames family
  rw [hsplit, List.pairwise_append] at hsorted
  have hfree : ∀ other ∈ smaller, other ∉ routes.keys := by
    intro other hother hmem
    have hlt : other < name := hsorted.2.2 other hother name List.mem_cons_self
    have hknown : other ∈ family.entityNames := by
      rw [← mem_sortedNames, hsplit]
      exact List.mem_append_left _ hother
    exact hleast other hknown (hto.mem_keys.1 hmem) hlt
  have hstop : route family routes family.sortedNames = .error (.duplicateEntity name) := by
    rw [hsplit]
    exact route_of_mem_keys (hsorted.1.imp String.ne_of_lt) hfree (hto.mem_keys.2 hclash)
  rw [join, routeAll_append, hroutes]
  simp only [Except.bind, routeAll, hstop, Except.map]

/-- Families that share no name are joined. -/
theorem exists_join {families : List Resolver}
    (h : families.Pairwise fun a b => a.entityNames.Disjoint b.entityNames) :
    ∃ routes, join families = .ok (ofRoutes routes) ∧ RoutesTo families routes := by
  obtain ⟨routes, hroutes, hto⟩ := routesTo_empty.exists_routeAll families h
  exact ⟨routes, by rw [join, hroutes]; rfl, hto⟩

/-- If a resolver has a name with some property, it has a smallest one. -/
theorem exists_least {r : Resolver} {p : String → Prop} (h : ∃ name ∈ r.entityNames, p name) :
    ∃ name, (name ∈ r.entityNames ∧ p name) ∧
      ∀ other ∈ r.entityNames, p other → ¬ other < name := by
  classical
  obtain ⟨some', hmem, hp⟩ := h
  have hfound : (r.sortedNames.find? (p ·)).isSome :=
    List.find?_isSome.2 ⟨some', mem_sortedNames.2 hmem, by simpa using hp⟩
  obtain ⟨name, hname⟩ := Option.isSome_iff_exists.1 hfound
  obtain ⟨hpname, smaller, larger, hsplit, hsmaller⟩ := List.find?_eq_some_iff_append.1 hname
  have hsorted := pairwise_sortedNames r
  rw [hsplit, List.pairwise_append, List.pairwise_cons] at hsorted
  refine ⟨name, ⟨?_, by simpa using hpname⟩, fun other hother hpother hlt => ?_⟩
  · rw [← mem_sortedNames, hsplit]
    simp
  · rw [← mem_sortedNames, hsplit, List.mem_append, List.mem_cons] at hother
    rcases hother with hbefore | rfl | hafter
    · simpa [hpother] using hsmaller other hbefore
    · exact String.lt_irrefl _ hlt
    · exact String.lt_irrefl _ (String.lt_trans hlt (hsorted.2.1.1 other hafter))

/-- Families share no name, or one of them is the first with a clash. -/
theorem disjoint_or_firstClash (families : List Resolver) :
    families.Pairwise (fun a b => a.entityNames.Disjoint b.entityNames) ∨
      ∃ name, FirstClash families name := by
  induction families using List.reverseRecOn with
  | nil => exact .inl .nil
  | append_singleton before family ih =>
    rcases ih with hbefore | ⟨name, hname⟩
    · by_cases hclash : ∃ name ∈ family.entityNames, ∃ earlier ∈ before, name ∈ earlier.entityNames
      · obtain ⟨name, hname, hleast⟩ := exists_least hclash
        exact .inr ⟨name, before, family, [], rfl, hbefore, hname, hleast⟩
      · refine .inl (List.pairwise_append.2 ⟨hbefore, List.pairwise_singleton _ _, ?_⟩)
        intro earlier hearlier last hlast name hmem hlastmem
        rw [List.mem_singleton] at hlast
        subst hlast
        exact hclash ⟨name, hlastmem, earlier, hearlier, hmem⟩
    · obtain ⟨first, clashing, after, rfl, hrest⟩ := hname
      exact .inr ⟨name, first, clashing, after ++ [family], by simp, hrest⟩

theorem join_eq_error_iff {families : List Resolver} {e : RegistrationError} :
    join families = .error e ↔ ∃ name, e = .duplicateEntity name ∧ FirstClash families name := by
  constructor
  · intro h
    rcases disjoint_or_firstClash families with hdisjoint | ⟨name, hname⟩
    · obtain ⟨routes, hroutes, -⟩ := exists_join hdisjoint
      cases hroutes.symm.trans h
    · obtain rfl : RegistrationError.duplicateEntity name = e :=
        Except.error.inj ((join_of_firstClash hname).symm.trans h)
      exact ⟨name, rfl, hname⟩
  · rintro ⟨name, rfl, hname⟩
    exact join_of_firstClash hname

theorem exists_join_eq_error_iff {families : List Resolver} :
    (∃ e, join families = .error e) ↔
      ¬ families.Pairwise fun a b => a.entityNames.Disjoint b.entityNames := by
  constructor
  · rintro ⟨e, he⟩ hdisjoint
    obtain ⟨routes, hroutes, -⟩ := exists_join hdisjoint
    cases hroutes.symm.trans he
  · intro hclash
    obtain ⟨name, hname⟩ := (disjoint_or_firstClash families).resolve_left hclash
    exact ⟨_, join_of_firstClash hname⟩

theorem shareName_iff {families : List Resolver} :
    ShareName families ↔
      ¬ families.Pairwise fun a b => a.entityNames.Disjoint b.entityNames := by
  rw [List.pairwise_iff_getElem]
  constructor
  · rintro ⟨i, j, a, b, name, hne, ha, hb, hname, hname'⟩ hdisjoint
    obtain ⟨hi, rfl⟩ := List.getElem?_eq_some_iff.1 ha
    obtain ⟨hj, rfl⟩ := List.getElem?_eq_some_iff.1 hb
    rcases Nat.lt_or_gt_of_ne hne with hlt | hlt
    · exact hdisjoint i j hi hj hlt hname hname'
    · exact hdisjoint j i hj hi hlt hname' hname
  · intro h
    push Not at h
    obtain ⟨i, j, hi, hj, hlt, hshared⟩ := h
    rw [List.Disjoint] at hshared
    push Not at hshared
    obtain ⟨name, hname, hname', -⟩ := hshared
    exact ⟨i, j, _, _, name, Nat.ne_of_lt hlt, List.getElem?_eq_getElem hi,
      List.getElem?_eq_getElem hj, hname, hname'⟩

end Resolver

-- ════════════════════════════════════════════════════════════════════════
-- Families of one mapping
-- ════════════════════════════════════════════════════════════════════════

section

variable {m : Mapping} {r : Registry} {families : List Mapping}

/-- Every part of a mapping that is accepted is accepted. -/
theorem Mapping.DividedInto.exists_registries (h : m.DividedInto families)
    (hr : Registry.ofMapping m = .ok r) :
    ∃ registries, List.Forall₂ (fun family registry => Registry.ofMapping family = .ok registry)
      families registries := by
  refine exists_forall₂ fun family hfamily => (Registry.registered_iff_wellFormed family).1.2 ?_
  intro entity em hem
  have hwhole : m.entities.find? entity = some em := (h.find?_iff entity em).2 ⟨family, hfamily, hem⟩
  exact (Registry.registered_iff_wellFormed m).1.1 ⟨r, hr⟩ entity em hwhole

theorem Registry.entityNames_resolver (hr : Registry.ofMapping m = .ok r) :
    r.resolver.entityNames = m.entities.keys :=
  keys_of_ofMapping hr

/-- What is registered under a name depends on what is declared under it only. -/
theorem Registry.descriptor_eq_of_find?_eq {m' : Mapping} {r' : Registry}
    (hr : Registry.ofMapping m = .ok r) (hr' : Registry.ofMapping m' = .ok r') {entity : String}
    {em : EntityMapping} (hem : m.entities.find? entity = some em)
    (hem' : m'.entities.find? entity = some em) :
    r.resolver.descriptor entity = r'.resolver.descriptor entity := by
  obtain ⟨e, he, hmade⟩ := exists_entity hr hem
  obtain ⟨e', he', hmade'⟩ := exists_entity hr' hem'
  obtain rfl : e = e' := Except.ok.inj (hmade.symm.trans hmade')
  rw [descriptor_eq_ok_iff.2 he, descriptor_eq_ok_iff.2 he']

theorem Registry.descriptor_of_not_mem (hr : Registry.ofMapping m = .ok r) {entity : String}
    (h : entity ∉ m.entities.keys) :
    r.resolver.descriptor entity = .error (.unknownEntity entity) := by
  have hnone : r.entities.find? entity = none := by
    rw [← Option.not_isSome_iff_eq_none, Dict.isSome_find?_iff, keys_of_ofMapping hr]
    exact h
  simp only [resolver, hnone]

namespace Mapping.DividedInto

theorem mem_keys_iff (h : m.DividedInto families) {entity : String} :
    entity ∈ m.entities.keys ↔ ∃ family ∈ families, entity ∈ family.entities.keys := by
  simp only [← Dict.isSome_find?_iff, Option.isSome_iff_exists, h.find?_iff]
  constructor
  · rintro ⟨em, family, hfamily, hem⟩
    exact ⟨family, hfamily, em, hem⟩
  · rintro ⟨family, hfamily, em, hem⟩
    exact ⟨em, family, hfamily, hem⟩

/-- The registries of the parts hold their entities. -/
theorem map_entityNames {registries : List Registry}
    (h : List.Forall₂ (fun family registry => Registry.ofMapping family = .ok registry)
      families registries) :
    (registries.map fun registry => registry.resolver.entityNames) =
      families.map fun family => family.entities.keys := by
  induction h with
  | nil => rfl
  | cons hfamily _ ih =>
    rw [List.map_cons, List.map_cons, ih, Registry.entityNames_resolver hfamily]

/-- The registries of the parts are joined, and the result answers like the registry of
  the whole. -/
theorem exists_join (h : m.DividedInto families) (hr : Registry.ofMapping m = .ok r)
    {registries : List Registry}
    (hregistries : List.Forall₂ (fun family registry => Registry.ofMapping family = .ok registry)
      families registries) :
    ∃ joined, Resolver.join (registries.map Registry.resolver) = .ok joined ∧
      joined.AnswersLike r.resolver := by
  have hnames := map_entityNames hregistries
  have hdisjoint : (registries.map Registry.resolver).Pairwise
      fun a b => a.entityNames.Disjoint b.entityNames := by
    have hkeys := List.pairwise_map.2 h.disjoint
    rw [← hnames] at hkeys
    exact List.pairwise_map.2 (List.pairwise_map.1 hkeys)
  obtain ⟨routes, hjoin, hto⟩ := Resolver.exists_join hdisjoint
  have hrouted : ∀ entity, entity ∈ routes.keys ↔ entity ∈ m.entities.keys := by
    intro entity
    have hmap : (∃ names ∈ registries.map fun registry => registry.resolver.entityNames,
        entity ∈ names) ↔ ∃ names ∈ families.map fun family => family.entities.keys,
        entity ∈ names := by rw [hnames]
    simpa [hto.mem_keys, h.mem_keys_iff] using hmap
  refine ⟨_, hjoin, .of_descriptor ?_ fun entity => ?_⟩
  · rw [Registry.entityNames_resolver hr]
    exact Dict.keys_eq_of_mem_iff hrouted
  · by_cases hentity : entity ∈ m.entities.keys
    · obtain ⟨em, hem⟩ := Option.isSome_iff_exists.1 (Dict.isSome_find?_iff.2 hentity)
      obtain ⟨family, hfamily, hpart⟩ := (h.find?_iff entity em).1 hem
      obtain ⟨registry, hregistry, hmade⟩ := (exists_mem_of_forall₂ hregistries).1 family hfamily
      have hknown : entity ∈ registry.resolver.entityNames := by
        rw [Registry.entityNames_resolver hmade, ← Dict.isSome_find?_iff, hpart]
        rfl
      have hroute : routes.find? entity = some registry.resolver :=
        (hto entity registry.resolver).2 ⟨List.mem_map_of_mem hregistry, hknown⟩
      simp only [Resolver.ofRoutes, hroute]
      exact Registry.descriptor_eq_of_find?_eq hmade hr hpart hem
    · have hnone : routes.find? entity = none := by
        rw [← Option.not_isSome_iff_eq_none, Dict.isSome_find?_iff, hrouted]
        exact hentity
      simp only [Resolver.ofRoutes, hnone]
      exact (Registry.descriptor_of_not_mem hr hentity).symm

end Mapping.DividedInto

end

/-- Joining loses and changes nothing. However the entities of an accepted mapping are
  divided into families, the families are accepted, their registries are joined, and the
  result answers like the registry of the whole mapping. Resolvers are refused exactly if
  two of them share a name; the fault then names the smallest name that the first clashing
  resolver shares with earlier ones. -/
theorem Resolver.join_families :
    (∀ m r families, Registry.ofMapping m = .ok r → m.DividedInto families →
      ∃ registries joined,
        List.Forall₂ (fun family registry => Registry.ofMapping family = .ok registry)
          families registries ∧
        join (registries.map Registry.resolver) = .ok joined ∧ joined.AnswersLike r.resolver) ∧
    ∀ families : List Resolver,
      ((∃ e, join families = .error e) ↔ ShareName families) ∧
      ∀ e, join families = .error e ↔
        ∃ name, e = .duplicateEntity name ∧ FirstClash families name := by
  refine ⟨fun m r families hr h => ?_, fun families => ⟨?_, fun e => join_eq_error_iff⟩⟩
  · obtain ⟨registries, hregistries⟩ := h.exists_registries hr
    obtain ⟨joined, hjoin, hlike⟩ := h.exists_join hr hregistries
    exact ⟨registries, joined, hregistries, hjoin, hlike⟩
  · rw [exists_join_eq_error_iff, shareName_iff]

namespace Storefront

/-- The entities that belong to customers, without their invoices. -/
def accountMapping : Mapping :=
  ⟨.ofList [("CustomerAddress", customerAddress), ("Customer", customer)]⟩

theorem mapping_dividedInto : mapping.DividedInto [invoiceMapping, accountMapping] where
  disjoint := by
    have hinvoices : invoiceMapping.entities.keys = ["Invoice"] := rfl
    have haccounts : accountMapping.entities.keys = ["Customer", "CustomerAddress"] := rfl
    rw [List.pairwise_pair, hinvoices, haccounts]
    simp
  find?_iff entity em := by
    have hwhole : mapping.entities.find? entity = Entries.find? entity
        [("Invoice", invoice), ("CustomerAddress", customerAddress), ("Customer", customer)] :=
      Dict.find?_ofList
    have hinvoices : invoiceMapping.entities.find? entity =
        Entries.find? entity [("Invoice", invoice)] := Dict.find?_ofList
    have haccounts : accountMapping.entities.find? entity = Entries.find? entity
        [("Customer", customer), ("CustomerAddress", customerAddress)] := Dict.find?_ofList
    simp only [List.mem_cons, List.not_mem_nil, or_false, exists_eq_or_imp, exists_eq_left, hwhole,
      hinvoices, haccounts, Entries.find?]
    grind

/-- Invoices and accounts are registered apart. Joined in this order they answer like the
  storefront; with the customers once more they cannot be joined. -/
theorem join_accounts :
    ∃ whole invoices accounts customers, Registry.ofMapping mapping = .ok whole ∧
      mapping.DividedInto [invoiceMapping, accountMapping] ∧
      Registry.ofMapping invoiceMapping = .ok invoices ∧
      Registry.ofMapping accountMapping = .ok accounts ∧
      Registry.ofMapping customerMapping = .ok customers ∧
      (∃ joined, Resolver.join [invoices.resolver, accounts.resolver] = .ok joined ∧
        joined.AnswersLike whole.resolver) ∧
      Resolver.join [invoices.resolver, accounts.resolver, customers.resolver] =
        .error (.duplicateEntity "Customer") := by
  obtain ⟨whole, hwhole⟩ : ∃ r, Registry.ofMapping mapping = .ok r := ⟨_, rfl⟩
  obtain ⟨customers, hcustomers⟩ : ∃ r, Registry.ofMapping customerMapping = .ok r := ⟨_, rfl⟩
  obtain ⟨registries, joined, hregistries, hjoin, hlike⟩ := Resolver.join_families.1
    mapping whole [invoiceMapping, accountMapping] hwhole mapping_dividedInto
  obtain ⟨invoices, rest, hinvoices, hrest, rfl⟩ := List.forall₂_cons_left_iff.1 hregistries
  obtain ⟨accounts, none, haccounts, hnone, rfl⟩ := List.forall₂_cons_left_iff.1 hrest
  obtain rfl := List.forall₂_nil_left_iff.1 hnone
  refine ⟨whole, invoices, accounts, customers, hwhole, mapping_dividedInto, hinvoices, haccounts,
    hcustomers, ⟨joined, hjoin, hlike⟩, ?_⟩
  have hinvoiceNames : invoices.resolver.entityNames = ["Invoice"] :=
    Registry.entityNames_resolver hinvoices
  have haccountNames : accounts.resolver.entityNames = ["Customer", "CustomerAddress"] :=
    Registry.entityNames_resolver haccounts
  have hcustomerNames : customers.resolver.entityNames = ["Customer"] :=
    Registry.entityNames_resolver hcustomers
  refine ((Resolver.join_families.2 _).2 _).2 ⟨"Customer", rfl,
    [invoices.resolver, accounts.resolver], customers.resolver, [], rfl, ?_, ?_, ?_⟩
  · rw [List.pairwise_pair, hinvoiceNames, haccountNames]
    simp
  · simp [hcustomerNames, haccountNames]
  · intro other hother _
    rw [hcustomerNames, List.mem_singleton] at hother
    rw [hother]
    exact String.lt_irrefl _

end Storefront

end EntityQuery
