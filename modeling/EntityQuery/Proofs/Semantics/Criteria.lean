import Mathlib.Data.List.Nodup
import EntityQuery.Criteria.Basic
import EntityQuery.Translation.Stored
import EntityQuery.Proofs.Semantics.Evaluation

/-!
# What criteria ask for

The meaning of criteria over the rows of an entity, without statements and joins:
each row of the primary table is one entity, and each of its properties has a
value. A property kept in an extension table has the value of the row that
belongs to the entity there, and none if there is no such row.

## Main definitions

- `Database.KeyedBy` — at most one row of an extension table belongs to a key
- `EntityDescriptor.partner` — the row of an extension table that belongs to an
  entity
- `EntityDescriptor.valueOf`, `EntityDescriptor.valueOf?` — the value of a property
- `Predicate.truth?`, `Criteria.truth?` — is an entity asked for?
- `Criteria.keys?` — the values an entity is ordered by
-/

namespace EntityQuery

open Sql

variable {V : Type} [DecidableEq V]

/-- No two rows of an extension table hold the same value in its join column. -/
def Database.KeyedBy (db : Database V) (x : ExtensionTable) : Prop :=
  ∀ v : V, (db x.table).countP (fun row => row x.joinColumn = some v) ≤ 1

/-- Rows with different cells in the join column belong to different keys. -/
theorem Database.keyedBy_of_nodup {db : Database V} {x : ExtensionTable}
    (h : ((db x.table).map fun row => row x.joinColumn).Nodup) : db.KeyedBy x := by
  intro v
  have hsame : (db x.table).countP (fun row => row x.joinColumn = some v) =
      (db x.table).countP ((· == some v) ∘ fun row => row x.joinColumn) :=
    List.countP_congr fun row _ => by simp
  rw [hsame, ← List.countP_map, ← List.count_eq_countP]
  exact List.nodup_iff_count_le_one.1 h (some v)

namespace EntityDescriptor

/-- The row of an extension table that belongs to a row of the primary table. -/
def partner (e : EntityDescriptor) (db : Database V) (x : ExtensionTable) (row : Row V) : Row V :=
  ((db x.table).find? fun other =>
    sameValue (other x.joinColumn) (row e.primaryKey) = .yes).getD Row.absent

/-- The value of a bound property. -/
def valueOf (e : EntityDescriptor) (db : Database V) (row : Row V) (b : PropertyBinding) :
    Option V :=
  match b.joinColumn with
  | none => row b.column.name
  | some joinColumn => e.partner db ⟨b.table, joinColumn⟩ row b.column.name

/-- The value of a property, if it is mapped. -/
def valueOf? (e : EntityDescriptor) (db : Database V) (row : Row V) (property : String) :
    Option (Option V) :=
  match e.binding property with
  | .error _ => none
  | .ok b => some (e.valueOf db row b)

end EntityDescriptor

/-- The parameter for a value compared with a property, if it can be stored. -/
def PropertyBinding.param? (b : PropertyBinding) (value : Value) : Option Param :=
  (b.param value).toOption

/-- Values that can all be stored have their parameters, in order. -/
theorem PropertyBinding.mapM_param? {b : PropertyBinding} {values : List Value}
    {params : List Param} (h : values.map b.param = params.map .ok) :
    values.mapM b.param? = some params := by
  induction values generalizing params with
  | nil =>
    cases params with
    | nil => rfl
    | cons p params => simp at h
  | cons v rest ih =>
    cases params with
    | nil => simp at h
    | cons p params =>
      obtain ⟨hv, hrest⟩ := List.cons.inj h
      have hp : b.param? v = some p := by rw [param?, hv]; rfl
      simp [hp, ih hrest]

/-- The truth of a test on a value of a property. -/
def Test.truth? (ops : Operators V) (b : PropertyBinding) (value : Option V) :
    Test → Option Truth
  | .compare op v => do return ops.compare op value (← b.param? v)
  | .isIn first rest => do return ops.isIn value (← (first :: rest).mapM b.param?)
  | .isNull => return ops.nullTest .isNull value
  | .isNotNull => return ops.nullTest .isNotNull value

/-- The truth of a predicate about the entity of a row. -/
def Predicate.truth? (ops : Operators V) (db : Database V) (e : EntityDescriptor) (row : Row V) :
    Predicate → Option Truth
  | .comparison c =>
    match e.binding c.property with
    | .error _ => none
    | .ok b => c.test.truth? ops b (e.valueOf db row b)
  | .and l r => do return (← truth? ops db e row l).and (← truth? ops db e row r)
  | .or l r => do return (← truth? ops db e row l).or (← truth? ops db e row r)

namespace Criteria

/-- Is the entity of a row asked for? Without a predicate every entity is. -/
def truth? (ops : Operators V) (db : Database V) (e : EntityDescriptor) (c : Criteria)
    (row : Row V) : Option Truth :=
  match c.predicate with
  | none => some .yes
  | some p => p.truth? ops db e row

/-- The values of the properties that the entity of a row is ordered by. -/
def keys? (db : Database V) (e : EntityDescriptor) (c : Criteria) (row : Row V) :
    Option (List (Option V)) :=
  c.sortKeys.mapM fun k => e.valueOf? db row k.property

end Criteria

end EntityQuery
