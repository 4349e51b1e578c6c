import EntityQuery.Dict
import EntityQuery.ScalarType
import EntityQuery.Sql.Select

/-!
# Entity mappings

How the entities of a domain are stored, as it is written in a configuration:
each entity has a primary table, extension tables that are joined by a column
holding the primary key, and properties that are each kept in one column.
Nothing is checked here.

## Main definitions

- `Converter` — how a value becomes its stored form
- `Column` — a column, its type and whether it may be empty
- `ExtensionTable` — a secondary table and the column it is joined by
- `PropertyMapping`, `EntityMapping`, `Mapping` — properties, entities, and all
  entities of a domain
-/

namespace EntityQuery

/-- How a value becomes its stored form. -/
inductive Converter
  /-- The value is stored as it is; its kind has to agree with the column. -/
  | identity
  /-- A variant of an enumeration is stored as its number. -/
  | enumAsInteger
  /-- A variant of an enumeration is stored as its name. -/
  | enumAsText
  /-- An identifier is stored as its hyphenated text. -/
  | uuidAsText
  /-- A truth value is stored as 0 or 1. -/
  | booleanAsInteger
deriving DecidableEq, Inhabited

namespace Converter

def all : List Converter :=
  [.identity, .enumAsInteger, .enumAsText, .uuidAsText, .booleanAsInteger]

def name : Converter → String
  | .identity => "identity"
  | .enumAsInteger => "enumAsInteger"
  | .enumAsText => "enumAsText"
  | .uuidAsText => "uuidAsText"
  | .booleanAsInteger => "booleanAsInteger"

end Converter

/-- May a column be empty? -/
inductive Nullability
  | nullable
  | nonNullable
deriving DecidableEq, Inhabited

namespace Nullability

def all : List Nullability :=
  [.nullable, .nonNullable]

def name : Nullability → String
  | .nullable => "Nullable"
  | .nonNullable => "NonNullable"

end Nullability

/-- A stored column. -/
structure Column where
  name : String
  type : ScalarType
  /-- May it be empty? -/
  nullability : Nullability := .nullable
deriving DecidableEq

/-- A secondary table that holds more columns of an entity. -/
structure ExtensionTable where
  table : TableName
  /-- Its column that holds the primary key of the entity. -/
  joinColumn : String
deriving DecidableEq

/-- Where a property is kept. -/
structure PropertyMapping where
  name : String
  /-- The extension table that holds the column, by its name or by schema, point
    and name; the primary table if absent. -/
  extensionTable : Option String := none
  column : Column
  /-- How values become their stored form. -/
  converter : Converter := .identity
deriving DecidableEq

/-- How an entity is stored. -/
structure EntityMapping where
  /-- The table with one row per entity. -/
  primaryTable : TableName
  /-- The column of the primary table that extension tables are joined by. -/
  primaryKey : String
  extensionTables : List ExtensionTable := []
  /-- The properties, in the order they are selected in. -/
  properties : List PropertyMapping
deriving DecidableEq

/-- How the entities of a domain are stored, by name. -/
structure Mapping where
  /-- The entities. -/
  entities : Dict EntityMapping
deriving DecidableEq, Inhabited

/-- The mapping without entities. -/
def Mapping.empty : Mapping :=
  ⟨Dict.empty⟩

end EntityQuery
