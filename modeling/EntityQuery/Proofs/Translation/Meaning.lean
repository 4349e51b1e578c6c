import EntityQuery.Storefront
import EntityQuery.Proofs.Semantics.Criteria
import EntityQuery.Proofs.Translation.Joins

/-!
# Statements mean what their criteria ask for

The statement made from criteria over a registered entity returns one row for
every row of the primary table whose entity is asked for, and nothing else.

## Main definitions

- `EntityDescriptor.joinedScope` — what is in scope for a row of the primary table

## Main statements

- `EntityDescriptor.joinAll?_map_join` — joins neither drop nor multiply rows
- `EntityDescriptor.exists_truth?_of_conditionOf` — conditions mean their predicates
- `Registry.results?_select` — statements mean their criteria
-/

namespace EntityQuery

open Sql

variable {V : Type} [DecidableEq V]

namespace EntityDescriptor

variable {e : EntityDescriptor} {db : Database V} {tables : List ExtensionTable} {row : Row V}

/-- What is in scope for a row of the primary table once extension tables have
  been joined: the row, and the row of each table that belongs to it. -/
def joinedScope (e : EntityDescriptor) (db : Database V) (tables : List ExtensionTable)
    (row : Row V) : Scope V :=
  (e.primaryTable, row) :: tables.map fun x => (x.table, e.partner db x row)

theorem joinedScope_concat {x : ExtensionTable} :
    e.joinedScope db (tables ++ [x]) row =
      e.joinedScope db tables row ++ [(x.table, e.partner db x row)] := by
  simp [joinedScope]

theorem map_fst_joinedScope :
    (e.joinedScope db tables row).map Prod.fst =
      e.primaryTable :: tables.map ExtensionTable.table := by
  simp [joinedScope]

/-- No table is in scope twice. -/
theorem nodup_joinedScope (h : e.WellFormed) (htables : ∀ x ∈ tables, x ∈ e.extensionTables)
    (hnodup : tables.Nodup) (db : Database V) (row : Row V) :
    ((e.joinedScope db tables row).map Prod.fst).Nodup := by
  rw [map_fst_joinedScope]
  exact h.nodup_tables htables hnodup

/-- The column of a property has the value of the property in scope. -/
theorem cell?_joinedScope (h : e.WellFormed) (htables : ∀ x ∈ tables, x ∈ e.extensionTables)
    (hnodup : tables.Nodup) {b : PropertyBinding} (hb : b ∈ e.bindings)
    (hcovered : ∀ x, b.extension? = some x → x ∈ tables) :
    (e.joinedScope db tables row).cell? ⟨b.table, b.column.name⟩ =
      some (e.valueOf db row b) := by
  have hscope := nodup_joinedScope h htables hnodup db row
  rw [valueOf]
  split
  · rename_i hjoin
    exact Scope.cell?_eq_some _ hscope (by simp [joinedScope, h.table_eq_primary b hb hjoin])
  · rename_i joinColumn hjoin
    have hx : ⟨b.table, joinColumn⟩ ∈ tables :=
      hcovered _ (by simp [PropertyBinding.extension?, hjoin])
    exact Scope.cell?_eq_some _ hscope
      (List.mem_cons_of_mem _ (List.mem_map.2 ⟨_, hx, rfl⟩))

-- ════════════════════════════════════════════════════════════════════════
-- Joins
-- ════════════════════════════════════════════════════════════════════════

/-- At most one row of an extension table belongs to a row of the primary table. -/
theorem length_matches_le_one {x : ExtensionTable} (hkeyed : db.KeyedBy x) (cell : Option V) :
    ((db x.table).filter fun other =>
      sameValue (other x.joinColumn) cell = .yes).length ≤ 1 := by
  cases cell with
  | none => simp [sameValue_eq_yes]
  | some v =>
    have hsame : ∀ other : Row V,
        sameValue (other x.joinColumn) (some v) = .yes ↔ other x.joinColumn = some v := by
      intro other
      rw [sameValue_eq_yes]
      constructor
      · rintro ⟨w, hw, hv⟩
        rw [hw, hv]
      · intro hv
        exact ⟨v, hv, rfl⟩
    simp only [hsame, ← List.countP_eq_length_filter]
    exact hkeyed v

/-- Joining one more table neither drops nor multiplies the row in scope. -/
theorem extend?_join (h : e.WellFormed) (htables : ∀ x ∈ tables, x ∈ e.extensionTables)
    {x : ExtensionTable} (hx : x ∈ e.extensionTables) (hnodup : (tables ++ [x]).Nodup)
    (hkeyed : db.KeyedBy x) (ops : Operators V) :
    (e.join x).extend? ops db (e.joinedScope db tables row) =
      some [e.joinedScope db (tables ++ [x]) row] := by
  have hall : ∀ y ∈ tables ++ [x], y ∈ e.extensionTables := by
    intro y hy
    rcases List.mem_append.1 hy with hy | hy
    · exact htables y hy
    · exact List.mem_singleton.1 hy ▸ hx
  have hscope : ∀ other : Row V,
      ((e.joinedScope db tables row ++ [(x.table, other)]).map Prod.fst).Nodup := by
    intro other
    have hjoined := nodup_joinedScope h hall hnodup db row
    rw [map_fst_joinedScope] at hjoined
    rw [List.map_append, map_fst_joinedScope]
    simpa using hjoined
  -- The condition reads the row that is joined and the row of the primary table, no other.
  have hon : ∀ other ∈ db x.table,
      (e.join x).on.truth? ops (e.joinedScope db tables row ++ [(x.table, other)]) =
        some (sameValue (other x.joinColumn) (row e.primaryKey)) := by
    intro other _
    have hmem : (x.table, other) ∈ e.joinedScope db tables row ++ [(x.table, other)] := by simp
    have hprimary : (e.primaryTable, row) ∈ e.joinedScope db tables row ++ [(x.table, other)] := by
      simp [joinedScope]
    simp [join, joinOf, Expr.truth?, Scope.cell?_eq_some _ (hscope other) hmem,
      Scope.cell?_eq_some _ (hscope other) hprimary]
  have hone := length_matches_le_one hkeyed (row e.primaryKey)
  have htable : (e.join x).table = x.table := rfl
  rw [Join.extend?, htable, keepTrue?_eq_some hon, joinedScope_concat, partner,
    ← List.head?_filter]
  obtain hlength | hlength := Nat.le_one_iff_eq_zero_or_eq_one.1 hone
  · rw [List.length_eq_zero_iff.1 hlength]
    rfl
  · obtain ⟨other, hother⟩ := List.length_eq_one_iff.1 hlength
    rw [hother]
    rfl

/-- Joining tables one after the other neither drops nor multiplies rows. -/
theorem joinAll?_map_join (h : e.WellFormed) (joined : List ExtensionTable)
    (hjoined : ∀ x ∈ joined ++ tables, x ∈ e.extensionTables) (hnodup : (joined ++ tables).Nodup)
    (hkeyed : ∀ x ∈ e.extensionTables, db.KeyedBy x) (ops : Operators V) (rows : List (Row V)) :
    joinAll? ops db (tables.map e.join) (rows.map (e.joinedScope db joined)) =
      some (rows.map (e.joinedScope db (joined ++ tables))) := by
  -- Each step moves one table over to those that are joined.
  induction tables generalizing joined with
  | nil => simp [joinAll?]
  | cons x rest ih =>
    have hsplit : joined ++ x :: rest = (joined ++ [x]) ++ rest := by simp
    have hx : x ∈ e.extensionTables := hjoined x (by simp)
    have hstep : ∀ row ∈ rows, (e.join x).extend? ops db (e.joinedScope db joined row) =
        some [e.joinedScope db (joined ++ [x]) row] := by
      intro row _
      refine extend?_join h (fun y hy => hjoined y (by simp [hy])) hx ?_ (hkeyed x hx) ops
      rw [hsplit] at hnodup
      exact (List.nodup_append.1 hnodup).1
    rw [List.map_cons, joinAll?, flatMapM_map_eq_some hstep, Option.bind_some,
      ← List.map_eq_flatMap, hsplit]
    rw [hsplit] at hjoined hnodup
    exact ih _ hjoined hnodup

-- ════════════════════════════════════════════════════════════════════════
-- Conditions and orderings
-- ════════════════════════════════════════════════════════════════════════

/-- The condition of a test has the truth value of the test. -/
theorem exists_truth?_of_testCondition (ops : Operators V) {scope : Scope V} {b : PropertyBinding}
    {value : Option V} (hcell : scope.cell? ⟨b.table, b.column.name⟩ = some value) {t : Test}
    {x : Expr} (hx : testCondition b t = .ok x) :
    ∃ truth, x.truth? ops scope = some truth ∧ t.truth? ops b value = some truth := by
  cases t with
  | compare op v =>
    obtain ⟨-, p, hp, rfl⟩ := testCondition_compare.1 hx
    refine ⟨ops.compare op value p, ?_, ?_⟩
    · simp [columnOf, Expr.truth?, hcell]
    · simp [Test.truth?, PropertyBinding.param?, hp, Except.toOption]
  | isIn first rest =>
    obtain ⟨params, hparams, rfl⟩ := testCondition_isIn.1 hx
    refine ⟨ops.isIn value params, ?_, ?_⟩
    · have hitems : (params.map Expr.param).mapM Expr.param? = some (params.map id) :=
        mapM_map_eq_some fun _ _ => rfl
      simp [columnOf, Expr.truth?, hcell, hitems]
    · rw [Test.truth?, PropertyBinding.mapM_param? hparams]
      rfl
  | isNull =>
    cases hx
    exact ⟨ops.nullTest .isNull value, by simp [columnOf, Expr.truth?, hcell], rfl⟩
  | isNotNull =>
    cases hx
    exact ⟨ops.nullTest .isNotNull value, by simp [columnOf, Expr.truth?, hcell], rfl⟩

/-- Where the extension tables that a predicate mentions are in scope, its
  condition has the truth value of the predicate. -/
theorem exists_truth?_of_conditionOf (h : e.WellFormed)
    (htables : ∀ x ∈ tables, x ∈ e.extensionTables) (hnodup : tables.Nodup) (ops : Operators V)
    {p : Predicate} {x : Expr} (hx : e.conditionOf p = .ok x)
    (hcovered : ∀ y ∈ e.extensionsOf (p.comparisons.map Comparison.property), y ∈ tables) :
    ∃ truth, x.truth? ops (e.joinedScope db tables row) = some truth ∧
      p.truth? ops db e row = some truth := by
  induction p generalizing x with
  | comparison c =>
    obtain ⟨b, hb, hx⟩ := conditionOf_comparison.1 hx
    have hcell : (e.joinedScope db tables row).cell? ⟨b.table, b.column.name⟩ =
        some (e.valueOf db row b) := by
      refine cell?_joinedScope h htables hnodup (mem_of_binding hb).1 fun y hy => hcovered y ?_
      exact mem_extensionsOf.2 ⟨c.property, by simp [Predicate.comparisons], b, hb, hy⟩
    obtain ⟨truth, hx, ht⟩ := exists_truth?_of_testCondition ops hcell hx
    exact ⟨truth, hx, by simp [Predicate.truth?, hb, ht]⟩
  | and l r ihl ihr =>
    obtain ⟨y, z, hy, hz, rfl⟩ := conditionOf_and.1 hx
    simp only [Predicate.comparisons, List.map_append, extensionsOf, List.filterMap_append,
      List.mem_append] at hcovered
    obtain ⟨s, hs, hls⟩ := ihl hy fun w hw => hcovered w (.inl hw)
    obtain ⟨t, ht, hrt⟩ := ihr hz fun w hw => hcovered w (.inr hw)
    exact ⟨s.and t, by simp [Expr.truth?, hs, ht], by simp [Predicate.truth?, hls, hrt]⟩
  | or l r ihl ihr =>
    obtain ⟨y, z, hy, hz, rfl⟩ := conditionOf_or.1 hx
    simp only [Predicate.comparisons, List.map_append, extensionsOf, List.filterMap_append,
      List.mem_append] at hcovered
    obtain ⟨s, hs, hls⟩ := ihl hy fun w hw => hcovered w (.inl hw)
    obtain ⟨t, ht, hrt⟩ := ihr hz fun w hw => hcovered w (.inr hw)
    exact ⟨s.or t, by simp [Expr.truth?, hs, ht], by simp [Predicate.truth?, hls, hrt]⟩

/-- Where the extension tables of sort keys are in scope, the keys of the ordering
  have the values of the properties, in the directions asked for. -/
theorem exists_keys_of_orderingOf (h : e.WellFormed)
    (htables : ∀ x ∈ tables, x ∈ e.extensionTables) (hnodup : tables.Nodup)
    {keys : List SortKey} {ordering : List OrderKey} (ho : e.orderingOf keys = .ok ordering)
    (hcovered : ∀ x ∈ e.extensionsOf (keys.map SortKey.property), x ∈ tables)
    (db : Database V) (row : Row V) :
    (∃ values, (ordering.mapM fun k => k.target.cell? (e.joinedScope db tables row)) = some values ∧
      (keys.mapM fun k => e.valueOf? db row k.property) = some values) ∧
    ordering.map OrderKey.direction = keys.map SortKey.direction := by
  induction keys generalizing ordering with
  | nil =>
    cases ho
    exact ⟨⟨[], rfl, rfl⟩, rfl⟩
  | cons k rest ih =>
    obtain ⟨b, more, hb, hmore, rfl⟩ := orderingOf_cons.1 ho
    have hcell : (e.joinedScope db tables row).cell? ⟨b.table, b.column.name⟩ =
        some (e.valueOf db row b) := by
      refine cell?_joinedScope h htables hnodup (mem_of_binding hb).1 fun x hx => hcovered x ?_
      exact mem_extensionsOf.2 ⟨k.property, by simp, b, hb, hx⟩
    have hrest : ∀ x ∈ e.extensionsOf (rest.map SortKey.property), x ∈ tables := by
      intro x hx
      obtain ⟨property, hproperty, found⟩ := mem_extensionsOf.1 hx
      exact hcovered x (mem_extensionsOf.2 ⟨property, List.mem_cons_of_mem _ hproperty, found⟩)
    obtain ⟨⟨values, hvalues, hasked⟩, hdirections⟩ := ih hmore hrest
    refine ⟨⟨e.valueOf db row b :: values, ?_, ?_⟩, by simp [hdirections]⟩
    · have hfirst : (columnOf b).cell? (e.joinedScope db tables row) =
          some (e.valueOf db row b) := hcell
      simp [hfirst, hvalues]
    · have hfirst : e.valueOf? db row k.property = some (e.valueOf db row b) := by
        rw [valueOf?, hb]
      simp [hfirst, hasked]

-- ════════════════════════════════════════════════════════════════════════
-- Statements
-- ════════════════════════════════════════════════════════════════════════

/-- The condition of criteria has a truth value for every row of the primary
  table, that of their predicate. -/
theorem exists_truth?_of_conditionOf? (h : e.WellFormed) (ops : Operators V) {c : Criteria}
    {x : Expr} (hx : e.conditionOf? c.predicate = .ok (some x)) (db : Database V) (row : Row V) :
    ∃ truth, x.truth? ops (e.joinedScope db (e.mentionedTables c) row) = some truth ∧
      c.truth? ops db e row = some truth := by
  cases hp : c.predicate with
  | none => simp [hp, conditionOf?] at hx
  | some p =>
    rw [hp] at hx
    obtain ⟨y, hy, hyx⟩ := conditionOf?_some.1 hx
    cases hyx
    rw [Criteria.truth?, hp]
    refine exists_truth?_of_conditionOf h h.mentionedTables_subset (nodup_eraseDups _) ops hy
      fun z hz => mem_mentionedTables ?_ hz
    intro property hproperty
    simp only [Criteria.referencedProperties, Criteria.comparisons, hp, List.mem_append]
    exact .inl hproperty

/-- The combinations of rows that a translated statement keeps: one for each row
  of the primary table whose entity is asked for. -/
theorem scopes?_eq_some (h : e.WellFormed) (hkeyed : ∀ x ∈ e.extensionTables, db.KeyedBy x)
    (ops : Operators V) {c : Criteria} {condition : Option Expr}
    (hc : e.conditionOf? c.predicate = .ok condition) {s : Select}
    (hsource : s.source = e.primaryTable) (hcondition : s.condition = condition)
    (hjoins : s.joins = (e.mentionedTables c).map e.join) :
    s.scopes? ops db = some (((db e.primaryTable).filter fun row =>
      c.truth? ops db e row = some .yes).map (e.joinedScope db (e.mentionedTables c))) := by
  have hjoined : joinAll? ops db s.joins ((db s.source).map fun row => [(s.source, row)]) =
      some ((db e.primaryTable).map (e.joinedScope db (e.mentionedTables c))) := by
    rw [hjoins, hsource]
    exact joinAll?_map_join h [] h.mentionedTables_subset (nodup_eraseDups _) hkeyed ops _
  rw [Select.scopes?, hjoined, hcondition]
  cases condition with
  | none =>
    have hnone : c.predicate = none := by
      cases hp : c.predicate with
      | none => rfl
      | some p =>
        rw [hp] at hc
        obtain ⟨x, -, hx⟩ := conditionOf?_some.1 hc
        cases hx
    simp [Criteria.truth?, hnone]
  | some x =>
    have htruth : ∀ row ∈ db e.primaryTable,
        x.truth? ops (e.joinedScope db (e.mentionedTables c) row) =
          some ((c.truth? ops db e row).getD .no) := by
      intro row _
      obtain ⟨truth, hx, ht⟩ := exists_truth?_of_conditionOf? h ops hc db row
      rw [hx, ht]
      rfl
    have hasked : ∀ row, (c.truth? ops db e row).getD .no = .yes ↔
        c.truth? ops db e row = some .yes := by
      intro row
      obtain ⟨truth, -, ht⟩ := exists_truth?_of_conditionOf? h ops hc db row
      simp [ht]
    have hkept : keepTrue? (fun scope => x.truth? ops scope)
        ((db e.primaryTable).map (e.joinedScope db (e.mentionedTables c))) = _ :=
      keepTrue?_map_eq_some htruth
    simp only [hasked] at hkept
    exact hkept

/-- Every row of the primary table is asked for or not. -/
theorem exists_truth? (h : e.WellFormed) (ops : Operators V) {c : Criteria}
    {condition : Option Expr} (hc : e.conditionOf? c.predicate = .ok condition) (db : Database V)
    (row : Row V) : ∃ truth, c.truth? ops db e row = some truth := by
  cases hp : c.predicate with
  | none => exact ⟨.yes, by rw [Criteria.truth?, hp]⟩
  | some p =>
    have hc' := hc
    rw [hp] at hc
    obtain ⟨x, -, rfl⟩ := conditionOf?_some.1 hc
    obtain ⟨truth, -, ht⟩ := exists_truth?_of_conditionOf? h ops hc' db row
    exact ⟨truth, ht⟩

/-- The ordering of criteria reads the values of their sort keys. -/
theorem exists_keys? (h : e.WellFormed) {c : Criteria} {ordering : List OrderKey}
    (ho : e.orderingOf c.sortKeys = .ok ordering) (db : Database V) (row : Row V) :
    (∃ keys, (ordering.mapM fun k =>
        k.target.cell? (e.joinedScope db (e.mentionedTables c) row)) = some keys ∧
      c.keys? db e row = some keys) ∧
    ordering.map OrderKey.direction = c.sortKeys.map SortKey.direction := by
  refine exists_keys_of_orderingOf h h.mentionedTables_subset (nodup_eraseDups _) ho ?_ db row
  refine fun x hx => mem_mentionedTables (fun property hproperty => ?_) hx
  rw [Criteria.referencedProperties]
  exact List.mem_append_right _ hproperty

/-- A statement returns the columns of the primary row, and the values that the
  entity is ordered by. -/
theorem resultRow?_eq_some (h : e.WellFormed) {c : Criteria} {s : Select}
    (houtputs : s.outputs = e.outputs) (ho : e.orderingOf c.sortKeys = .ok s.ordering)
    (db : Database V) (row : Row V) {keys : List (Option V)}
    (hkeys : c.keys? db e row = some keys) :
    s.resultRow? (e.joinedScope db (e.mentionedTables c) row) = some
      { outputs := e.primaryBindings.map fun b => (b.property, row b.column.name), keys } := by
  have hscope := nodup_joinedScope h (h.mentionedTables_subset (c := c)) (nodup_eraseDups _) db row
  have hcells : (e.outputs.mapM fun o =>
      (o.expr.cell? (e.joinedScope db (e.mentionedTables c) row)).map fun cell => (o.name, cell)) =
        some (e.primaryBindings.map fun b => (b.property, row b.column.name)) := by
    refine mapM_map_eq_some fun b _ => ?_
    have hcell := Scope.cell?_eq_some b.column.name hscope List.mem_cons_self
    simp [Expr.cell?, hcell]
  obtain ⟨⟨values, hvalues, hasked⟩, -⟩ := exists_keys? h ho db row
  obtain rfl : values = keys := Option.some.inj (hasked.symm.trans hkeys)
  rw [Select.resultRow?, houtputs, hcells, hvalues]
  rfl

end EntityDescriptor

open EntityDescriptor in
/-- Statements mean their criteria. The statement made from criteria over a
  registered entity returns one row for each row of the primary table whose
  entity is asked for, in the order of the primary table: the columns of that row
  and the values of the sort keys, in the directions and with the window asked
  for. -/
theorem Registry.results?_select {m : Mapping} {r : Registry} (hr : Registry.ofMapping m = .ok r)
    {entity : String} {e : EntityDescriptor} (he : r.resolver.descriptor entity = .ok e)
    {c : Criteria} {s : Select} (hs : r.resolver.select entity c = .ok s) (ops : Operators V)
    (db : Database V) (hkeyed : ∀ x ∈ e.extensionTables, db.KeyedBy x) :
    ∃ (truth : Row V → Truth) (keys : Row V → List (Option V)),
      (∀ row, c.truth? ops db e row = some (truth row)) ∧
      (∀ row, c.keys? db e row = some (keys row)) ∧
      s.results? ops db = some (((db e.primaryTable).filter fun row => truth row = .yes).map
        fun row =>
          { outputs := e.primaryBindings.map fun b => (b.property, row b.column.name)
            keys := keys row }) ∧
      s.ordering.map OrderKey.direction = c.sortKeys.map SortKey.direction ∧
      s.window = c.window := by
  have h : e.WellFormed := wellFormed_of_descriptor hr he
  obtain ⟨found, hfound, hs⟩ := Resolver.select_eq_ok.1 hs
  obtain rfl : e = found := Except.ok.inj (he.symm.trans hfound)
  obtain ⟨condition, ordering, hc, ho, rfl⟩ := select_eq_ok.1 hs
  choose truth htruth using exists_truth? h ops hc db
  choose keys hread hkeys using fun row => (exists_keys? h ho db row).1
  refine ⟨truth, keys, htruth, hkeys, ?_, (exists_keys? h ho db Row.absent).2, rfl⟩
  rw [Select.results?, scopes?_eq_some h hkeyed ops hc rfl rfl (mentionAll_eq h), Option.bind_some]
  simp only [htruth, Option.some.injEq]
  exact mapM_map_eq_some fun row _ => resultRow?_eq_some h rfl ho db row (hkeys row)

namespace Storefront

/-- A row of the customers. -/
def customerRow (key email : Nat) : Row Nat
  | "key" => some key
  | "email" => some email
  | _ => none

/-- A row of the notes on customers. -/
def noteRow (customer note : Nat) : Row Nat
  | "customer_key" => some customer
  | "note" => some note
  | _ => none

/-- Two customers. Only the second one has a note, and the note on a third
  customer, who is gone, is still there. -/
def customers : Database Nat := fun table =>
  if table = ⟨none, "customers"⟩ then [customerRow 1 10, customerRow 2 20]
  else if table = ⟨none, "customer_notes"⟩ then [noteRow 2 7, noteRow 3 8]
  else []

/-- Every comparison with a value that is there is true. -/
def presence : Operators Nat where
  compare _ cell _ := if cell.isSome then .yes else .unknown
  isIn cell _ := if cell.isSome then .yes else .unknown
  nullTest
    | .isNull, cell => if cell.isSome then .no else .yes
    | .isNotNull, cell => if cell.isSome then .yes else .no

/-- Customers with a note and without preferences, by their notes. -/
def withNote : Criteria where
  predicate := some (.and (.comparison ⟨"note", .compare .like (.text "%")⟩)
    (.comparison ⟨"newsletter", .isNull⟩))
  sortKeys := [⟨"note", .descending⟩]
  window := some ⟨0, 5⟩

/-- The descriptor of the customers. -/
def customerDescriptor : EntityDescriptor where
  name := "Customer"
  primaryTable := ⟨none, "customers"⟩
  primaryKey := "key"
  extensionTables := customer.extensionTables
  bindings :=
    [⟨"key", ⟨none, "customers"⟩, ⟨"key", .uuid, .nonNullable⟩, .identity, none⟩,
     ⟨"email", ⟨none, "customers"⟩, ⟨"email", .text, .nonNullable⟩, .identity, none⟩,
     ⟨"note", ⟨none, "customer_notes"⟩, ⟨"note", .text, .nullable⟩, .identity, "customer_key"⟩,
     ⟨"newsletter", ⟨none, "customer_preferences"⟩, ⟨"newsletter", .integer, .nonNullable⟩,
      .booleanAsInteger, "customer_key"⟩]

/-- The statement for customers with a note returns the second customer. -/
theorem results?_withNote :
    ∃ r s, Registry.ofMapping customerMapping = .ok r ∧
      r.resolver.descriptor "Customer" = .ok customerDescriptor ∧
      r.resolver.select "Customer" withNote = .ok s ∧
      (∀ x ∈ customerDescriptor.extensionTables, customers.KeyedBy x) ∧
      s.results? presence customers =
        some [{ outputs := [("key", some 2), ("email", some 20)], keys := [some 7] }] := by
  have hr : Registry.ofMapping customerMapping =
      .ok ⟨.ofList [("Customer", customerDescriptor)]⟩ := rfl
  have he : (Registry.mk (.ofList [("Customer", customerDescriptor)])).resolver.descriptor
      "Customer" = .ok customerDescriptor := rfl
  have hs : (Registry.mk (.ofList [("Customer", customerDescriptor)])).resolver.select
      "Customer" withNote = .ok _ := rfl
  have hkeyed : ∀ x ∈ customer.extensionTables, customers.KeyedBy x := by
    simp only [customer, List.forall_mem_cons]
    refine ⟨fun v => ?_, fun v => by simp [customers], by simp⟩
    have hfirst : noteRow 2 7 "customer_key" = some 2 := rfl
    have hsecond : noteRow 3 8 "customer_key" = some 3 := rfl
    by_cases hv : v = 2 <;> simp [customers, List.countP_cons, hfirst, hsecond, eq_comm, hv]
    split <;> simp
  refine ⟨_, _, hr, he, hs, hkeyed, ?_⟩
  obtain ⟨truth, keys, htruth, hkeys, hresults, -⟩ :=
    Registry.results?_select hr he hs presence customers hkeyed
  have hfirst : truth (customerRow 1 10) = .unknown :=
    (Option.some.inj (htruth (customerRow 1 10))).symm
  have hsecond : truth (customerRow 2 20) = .yes :=
    (Option.some.inj (htruth (customerRow 2 20))).symm
  have hkey : keys (customerRow 2 20) = [some 7] :=
    (Option.some.inj (hkeys (customerRow 2 20))).symm
  have hkept : (customers customerDescriptor.primaryTable).filter (fun row => truth row = .yes) =
      [customerRow 2 20] := by
    simp [customers, customerDescriptor, hfirst, hsecond]
  rw [hresults, hkept, List.map_singleton, hkey]
  rfl

end Storefront

end EntityQuery
