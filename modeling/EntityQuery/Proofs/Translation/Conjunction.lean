import Mathlib.Data.List.Induction
import EntityQuery.Proofs.Translation.Counting
import EntityQuery.Proofs.Translation.Grouping

/-!
# The translation of combined criteria

Criteria that are combined by `and` are translated part by part: conditions, orderings and
parameters follow from those of the two translations. The joins do not follow each other in
the same way, since the sort keys of the first criteria come after the predicate of the
second and either may need a table that is joined already; they are the joins of the four
parts, each table being joined where it is needed first.

## Main definitions

- `onePerTable` — joins without those of a table that is joined before
- `EntityDescriptor.neededJoins` — a join for every mention of an extension table
- `Sql.Select.Combines` — a statement that combines two others

## Main statements

- `EntityDescriptor.mentionAll_eq_onePerTable` — the joins after properties have been mentioned
- `Resolver.select_and` — the translation of combined criteria
-/

namespace EntityQuery

open Sql

-- ════════════════════════════════════════════════════════════════════════
-- One join for each table
-- ════════════════════════════════════════════════════════════════════════

/-- The joins without those of a table that is joined before. -/
def onePerTable (joins : Joins) : Joins :=
  joins.eraseDupsBy fun j k => j.table = k.table

section OnePerTable

variable {xs ys : Joins} {x : Join}

theorem onePerTable_cons :
    onePerTable (x :: xs) = x :: onePerTable (xs.filter fun j => j.table ≠ x.table) := by
  simp [onePerTable, List.eraseDupsBy_cons]

theorem onePerTable_concat :
    onePerTable (xs ++ [x]) =
      if x.table ∈ xs.map Join.table then onePerTable xs else onePerTable xs ++ [x] := by
  -- The tail of a list is filtered before its repetitions are removed, so it becomes shorter.
  induction hn : xs.length using Nat.strong_induction_on generalizing xs with
  | _ n ih =>
    cases xs with
    | nil => rfl
    | cons y rest =>
      have hlength : (rest.filter fun j => j.table ≠ y.table).length < n := by
        have := List.length_filter_le (fun j => j.table ≠ y.table) rest
        simp only [List.length_cons] at hn
        omega
      rw [List.cons_append, onePerTable_cons, onePerTable_cons, List.filter_append]
      by_cases hxy : x.table = y.table
      · simp [hxy]
      · have hmem : x.table ∈ (rest.filter fun j => j.table ≠ y.table).map Join.table ↔
            x.table ∈ (y :: rest).map Join.table := by
          simp only [List.mem_map, List.mem_filter, decide_eq_true_eq, List.mem_cons]
          constructor
          · rintro ⟨j, ⟨hj, -⟩, hjx⟩
            exact ⟨j, .inr hj, hjx⟩
          · rintro ⟨j, rfl | hj, hjx⟩
            · exact absurd hjx.symm hxy
            · exact ⟨j, ⟨hj, hjx ▸ hxy⟩, hjx⟩
        have hlast : [x].filter (fun j => j.table ≠ y.table) = [x] := by simp [hxy]
        rw [hlast, ih _ hlength rfl]
        simp only [hmem]
        split <;> rfl

theorem tables_onePerTable {table : TableName} :
    table ∈ (onePerTable xs).map Join.table ↔ table ∈ xs.map Join.table := by
  induction xs using List.reverseRecOn with
  | nil => rfl
  | append_singleton xs x ih =>
    rw [onePerTable_concat]
    split
    · rename_i hx
      rw [ih, List.map_append, List.mem_append]
      refine ⟨.inl, ?_⟩
      rintro (h | h)
      · exact h
      · obtain rfl : table = x.table := by simpa using h
        exact hx
    · simp only [List.map_append, List.mem_append, ih]

theorem nodup_onePerTable : ((onePerTable xs).map Join.table).Nodup := by
  induction xs using List.reverseRecOn with
  | nil => exact .nil
  | append_singleton xs x ih =>
    rw [onePerTable_concat]
    split
    · exact ih
    · rename_i hx
      rw [List.map_append]
      refine List.nodup_append.2 ⟨ih, List.nodup_singleton _, ?_⟩
      rintro table htable _ hlast rfl
      obtain rfl : table = x.table := by simpa using hlast
      exact hx (tables_onePerTable.1 htable)

theorem onePerTable_onePerTable_append :
    onePerTable (onePerTable xs ++ ys) = onePerTable (xs ++ ys) := by
  induction ys using List.reverseRecOn with
  | nil =>
    rw [List.append_nil, List.append_nil]
    induction xs using List.reverseRecOn with
    | nil => rfl
    | append_singleton xs x ih =>
      rw [onePerTable_concat]
      split
      · exact ih
      · rename_i hx
        rw [onePerTable_concat, if_neg (mt tables_onePerTable.1 hx), ih]
  | append_singleton ys y ih =>
    simp only [← List.append_assoc, onePerTable_concat, List.map_append, List.mem_append,
      tables_onePerTable, ih]

theorem onePerTable_append_onePerTable :
    onePerTable (xs ++ onePerTable ys) = onePerTable (xs ++ ys) := by
  induction ys using List.reverseRecOn with
  | nil => rfl
  | append_singleton ys y ih =>
    rw [onePerTable_concat]
    split
    · rename_i hy
      have hbefore : y.table ∈ (xs ++ ys).map Join.table := by
        rw [List.map_append]
        exact List.mem_append_right _ hy
      rw [ih, ← List.append_assoc, onePerTable_concat, if_pos hbefore]
    · simp only [← List.append_assoc, onePerTable_concat, List.map_append, List.mem_append,
        tables_onePerTable, ih]

/-- Repetitions within the parts of a list may be removed before those in the whole list. -/
theorem onePerTable_flatten (parts : List Joins) :
    onePerTable (parts.map onePerTable).flatten = onePerTable parts.flatten := by
  induction parts with
  | nil => rfl
  | cons part rest ih =>
    rw [List.map_cons, List.flatten_cons, List.flatten_cons, onePerTable_onePerTable_append,
      ← onePerTable_append_onePerTable, ih, onePerTable_append_onePerTable]

end OnePerTable

-- ════════════════════════════════════════════════════════════════════════
-- Needed joins
-- ════════════════════════════════════════════════════════════════════════

namespace EntityDescriptor

variable {e : EntityDescriptor} {a b : Criteria}

/-- The join that a property needs, if it is kept in an extension table. -/
def neededJoin? (e : EntityDescriptor) (property : String) : Option Join :=
  (e.binding property).toOption.bind fun b => b.joinColumn.map (e.joinOf b.table)

/-- The joins that properties need, one for every mention of an extension table. -/
def neededJoins (e : EntityDescriptor) (properties : List String) : Joins :=
  properties.filterMap e.neededJoin?

theorem mention_onePerTable {b : PropertyBinding} {joins : Joins} :
    e.mention b (onePerTable joins) =
      onePerTable (joins ++ (b.joinColumn.map (e.joinOf b.table)).toList) := by
  rw [mention]
  cases b.joinColumn with
  | none => simp
  | some joinColumn =>
    simp only [tables_onePerTable, Option.map_some, Option.toList_some, onePerTable_concat]
    rfl

theorem mentionAll_onePerTable {properties : List String} {joins : Joins} :
    e.mentionAll properties (onePerTable joins) =
      onePerTable (joins ++ e.neededJoins properties) := by
  induction properties generalizing joins with
  | nil => simp [mentionAll, neededJoins]
  | cons property rest ih =>
    rw [mentionAll]
    cases hb : e.binding property with
    | error err =>
      simp only [ih]
      simp [neededJoins, neededJoin?, hb, Except.toOption]
    | ok b =>
      simp only [mention_onePerTable, ih]
      cases hj : b.joinColumn <;> simp [neededJoins, neededJoin?, hb, hj, Except.toOption]

/-- The joins after properties have been mentioned: for each table the join that is needed
  first. -/
theorem mentionAll_eq_onePerTable {properties : List String} :
    e.mentionAll properties [] = onePerTable (e.neededJoins properties) :=
  @mentionAll_onePerTable e properties []

end EntityDescriptor

-- ════════════════════════════════════════════════════════════════════════
-- Combined criteria
-- ════════════════════════════════════════════════════════════════════════

/-- A statement that combines two others: it keeps the rows that both keep, in the order of
  the first and then of the second, and the second window takes precedence. -/
structure Sql.Select.Combines (s first second : Select) : Prop where
  outputs : s.outputs = first.outputs ∧ s.outputs = second.outputs
  source : s.source = first.source ∧ s.source = second.source
  condition : s.condition = Option.merge .and first.condition second.condition
  ordering : s.ordering = first.ordering ++ second.ordering
  window : s.window = second.window.or first.window
  params : ∀ d, (s.render d).params = (first.render d).params ++ (second.render d).params

/-- The sort keys of criteria, without predicate and window. -/
def Criteria.ordered (c : Criteria) : Criteria :=
  { sortKeys := c.sortKeys }

namespace EntityDescriptor

variable {e : EntityDescriptor} {a b : Criteria}

theorem conditionOf?_and {condition : Option Expr} :
    e.conditionOf? (a.and b).predicate = .ok condition ↔
      ∃ x y, e.conditionOf? a.predicate = .ok x ∧ e.conditionOf? b.predicate = .ok y ∧
        condition = Option.merge .and x y := by
  obtain ⟨_ | p, _, _⟩ := a <;> obtain ⟨_ | q, _, _⟩ := b
  case some.some =>
    simp only [Criteria.and, Criteria.merge, conditionOf?_some, conditionOf_and]
    constructor
    · rintro ⟨-, ⟨x, y, hx, hy, rfl⟩, rfl⟩
      exact ⟨some x, some y, ⟨x, hx, rfl⟩, ⟨y, hy, rfl⟩, rfl⟩
    · rintro ⟨-, -, ⟨x, hx, rfl⟩, ⟨y, hy, rfl⟩, rfl⟩
      exact ⟨_, ⟨x, y, hx, hy, rfl⟩, rfl⟩
  -- A side without a predicate leaves the other one as it is.
  all_goals simp [Criteria.and, Criteria.merge, conditionOf?, Except.map, eq_comm]

theorem orderingOf_append {first second : List SortKey} {ordering : List OrderKey} :
    e.orderingOf (first ++ second) = .ok ordering ↔
      ∃ keys more, e.orderingOf first = .ok keys ∧ e.orderingOf second = .ok more ∧
        ordering = keys ++ more := by
  induction first generalizing ordering with
  | nil => simp [orderingOf]
  | cons k rest ih =>
    simp only [List.cons_append, orderingOf_cons, ih]
    constructor
    · rintro ⟨bound, -, hbound, ⟨keys, more, hkeys, hmore, rfl⟩, rfl⟩
      exact ⟨_, more, ⟨bound, keys, hbound, hkeys, rfl⟩, hmore, rfl⟩
    · rintro ⟨-, more, ⟨bound, keys, hbound, hkeys, rfl⟩, hmore, rfl⟩
      exact ⟨bound, keys ++ more, hbound, ⟨keys, more, hkeys, hmore, rfl⟩, rfl⟩

theorem exists_select_and :
    (∃ s, e.select (a.and b) = .ok s) ↔
      (∃ s, e.select a = .ok s) ∧ ∃ s, e.select b = .ok s := by
  simp only [select_eq_ok]
  constructor
  · rintro ⟨-, condition, ordering, hcondition, hordering, -⟩
    obtain ⟨x, y, hx, hy, -⟩ := conditionOf?_and.1 hcondition
    obtain ⟨keys, more, hkeys, hmore, -⟩ := orderingOf_append.1 hordering
    exact ⟨⟨_, x, keys, hx, hkeys, rfl⟩, ⟨_, y, more, hy, hmore, rfl⟩⟩
  · rintro ⟨⟨-, x, keys, hx, hkeys, -⟩, ⟨-, y, more, hy, hmore, -⟩⟩
    exact ⟨_, _, _, conditionOf?_and.2 ⟨x, y, hx, hy, rfl⟩,
      orderingOf_append.2 ⟨keys, more, hkeys, hmore, rfl⟩, rfl⟩

/-- Apart from the joins, the translation of combined criteria is made of the translations
  of the parts. -/
theorem combines_select_and {s first second : Select} (hs : e.select (a.and b) = .ok s)
    (ha : e.select a = .ok first) (hb : e.select b = .ok second) : s.Combines first second := by
  have hparams := params_of_select hs
  have hfirst := params_of_select ha
  have hsecond := params_of_select hb
  obtain ⟨condition, ordering, hcondition, hordering, rfl⟩ := select_eq_ok.1 hs
  obtain ⟨x, keys, hx, hkeys, rfl⟩ := select_eq_ok.1 ha
  obtain ⟨y, more, hy, hmore, rfl⟩ := select_eq_ok.1 hb
  obtain rfl : Option.merge .and x y = condition :=
    Except.ok.inj ((conditionOf?_and.2 ⟨x, y, hx, hy, rfl⟩).symm.trans hcondition)
  obtain rfl : keys ++ more = ordering :=
    Except.ok.inj ((orderingOf_append.2 ⟨keys, more, hkeys, hmore, rfl⟩).symm.trans hordering)
  constructor
  case outputs | source => exact ⟨rfl, rfl⟩
  case condition | ordering | window => rfl
  case params =>
    intro d
    rw [Select.params_eq, Select.params_eq, Select.params_eq, hparams, hfirst, hsecond]
    cases x <;> cases y <;> simp [Option.merge, Expr.params]

theorem neededJoins_append {first second : List String} :
    e.neededJoins (first ++ second) = e.neededJoins first ++ e.neededJoins second :=
  List.filterMap_append

theorem joins_of_select {c : Criteria} {s : Select} (hs : e.select c = .ok s) :
    s.joins = onePerTable (e.neededJoins c.referencedProperties) := by
  obtain ⟨condition, ordering, -, -, rfl⟩ := select_eq_ok.1 hs
  exact mentionAll_eq_onePerTable

theorem select_parts {c : Criteria} {s : Select} (hs : e.select c = .ok s) :
    ∃ predicate keys, e.select c.unordered = .ok predicate ∧ e.select c.ordered = .ok keys := by
  obtain ⟨condition, ordering, hcondition, hordering, -⟩ := select_eq_ok.1 hs
  exact ⟨_, _, select_eq_ok.2 ⟨condition, [], hcondition, rfl, rfl⟩,
    select_eq_ok.2 ⟨none, ordering, rfl, hordering, rfl⟩⟩

/-- The joins of combined criteria are those of both predicates and then of both lists of
  sort keys, each table being joined where it is needed first. -/
theorem joins_select_and {s pa pb ka kb : Select} (hs : e.select (a.and b) = .ok s)
    (hpa : e.select a.unordered = .ok pa) (hpb : e.select b.unordered = .ok pb)
    (hka : e.select a.ordered = .ok ka) (hkb : e.select b.ordered = .ok kb) :
    s.joins = onePerTable (pa.joins ++ pb.joins ++ ka.joins ++ kb.joins) := by
  have hproperties : (a.and b).referencedProperties =
      a.unordered.referencedProperties ++ b.unordered.referencedProperties ++
        a.ordered.referencedProperties ++ b.ordered.referencedProperties := by
    rw [Criteria.referencedProperties_unordered, Criteria.referencedProperties_unordered,
      Criteria.referencedProperties, Criteria.comparisons_and]
    simp [Criteria.ordered, Criteria.referencedProperties, Criteria.comparisons, Criteria.and,
      Criteria.merge]
  rw [joins_of_select hs, joins_of_select hpa, joins_of_select hpb, joins_of_select hka,
    joins_of_select hkb, hproperties, neededJoins_append, neededJoins_append, neededJoins_append]
  simpa using (onePerTable_flatten [_, _, _, _]).symm

end EntityDescriptor

/-- Combined criteria are translated exactly if both criteria are. The statement combines
  those of the two; it has the joins of the first predicate, the second predicate, the first
  sort keys and the second sort keys, each table being joined once, where it is needed
  first. -/
theorem Resolver.select_and (r : Resolver) (entity : String) (a b : Criteria) :
    ((∃ s, r.select entity (a.and b) = .ok s) ↔
      (∃ s, r.select entity a = .ok s) ∧ ∃ s, r.select entity b = .ok s) ∧
    ∀ s first second, r.select entity (a.and b) = .ok s →
      r.select entity a = .ok first → r.select entity b = .ok second →
      s.Combines first second ∧ (s.joins.map Join.table).Nodup ∧
      ∃ pa pb ka kb, r.select entity a.unordered = .ok pa ∧
        r.select entity b.unordered = .ok pb ∧ r.select entity a.ordered = .ok ka ∧
        r.select entity b.ordered = .ok kb ∧
        s.joins = onePerTable (pa.joins ++ pb.joins ++ ka.joins ++ kb.joins) := by
  cases he : r.descriptor entity with
  | error err => simp [select, he]
  | ok e =>
    simp only [select_of_descriptor he]
    refine ⟨EntityDescriptor.exists_select_and, fun s first second hs hfirst hsecond => ?_⟩
    obtain ⟨pa, ka, hpa, hka⟩ := EntityDescriptor.select_parts hfirst
    obtain ⟨pb, kb, hpb, hkb⟩ := EntityDescriptor.select_parts hsecond
    have hnodup : (s.joins.map Join.table).Nodup := by
      rw [EntityDescriptor.joins_of_select hs]
      exact nodup_onePerTable
    exact ⟨EntityDescriptor.combines_select_and hs hfirst hsecond, hnodup, pa, pb, ka, kb,
      hpa, hpb, hka, hkb, EntityDescriptor.joins_select_and hs hpa hpb hka hkb⟩

namespace Storefront

/-- Customers with a note, in the order of their preferences. -/
def noted : Criteria where
  predicate := some (.comparison ⟨"note", .compare .like (.text "%")⟩)
  sortKeys := [⟨"newsletter", .descending⟩]
  window := some ⟨0, 10⟩

/-- Customers with an address of their own or a newsletter, in the order of their notes. -/
def subscribed : Criteria where
  predicate := some (.or (.comparison ⟨"email", .isNotNull⟩)
    (.comparison ⟨"newsletter", .compare .equals (.bool true)⟩))
  sortKeys := [⟨"note", .ascending⟩]

/-- Both extension tables are needed by both criteria and joined once. -/
theorem select_and_subscribed :
    ∃ r s first second, Registry.ofMapping customerMapping = .ok r ∧
      r.resolver.select "Customer" (noted.and subscribed) = .ok s ∧
      r.resolver.select "Customer" noted = .ok first ∧
      r.resolver.select "Customer" subscribed = .ok second ∧
      first.joins.map Join.table = [⟨none, "customer_notes"⟩, ⟨none, "customer_preferences"⟩] ∧
      second.joins.map Join.table = [⟨none, "customer_preferences"⟩, ⟨none, "customer_notes"⟩] ∧
      s.Combines first second ∧ (s.joins.map Join.table).Nodup := by
  obtain ⟨r, hr, s, hs, first, hfirst, second, hsecond, hnotes, hpreferences⟩ :
      ∃ r, Registry.ofMapping customerMapping = .ok r ∧
        ∃ s, r.resolver.select "Customer" (noted.and subscribed) = .ok s ∧
          ∃ first, r.resolver.select "Customer" noted = .ok first ∧
            ∃ second, r.resolver.select "Customer" subscribed = .ok second ∧
              first.joins.map Join.table =
                [⟨none, "customer_notes"⟩, ⟨none, "customer_preferences"⟩] ∧
              second.joins.map Join.table =
                [⟨none, "customer_preferences"⟩, ⟨none, "customer_notes"⟩] :=
    ⟨_, rfl, _, rfl, _, rfl, _, rfl, rfl, rfl⟩
  obtain ⟨hcombines, hnodup, -⟩ :=
    (Resolver.select_and r.resolver "Customer" noted subscribed).2 s first second hs hfirst hsecond
  exact ⟨r, s, first, second, hr, hs, hfirst, hsecond, hnotes, hpreferences, hcombines, hnodup⟩

end Storefront

end EntityQuery
