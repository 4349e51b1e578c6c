import EntityQuery.Json.Basic
import EntityQuery.Mapping.Resolver

/-!
# Configurations

A configuration names the dialect statements are written in and says how the
entities are stored. It is kept as a JSON document; on use, its mapping is
checked.

## Main definitions

- `Configuration` — a configuration as it is kept
- `Configuration.toJson` — its JSON document
- `Runtime`, `Configuration.activate` — a configuration in use

## Design notes

The document lists the fields as they are declared and the entities by name.
Absent names and empty lists of extension tables are left out; nullability and
converter are always written.
-/

namespace EntityQuery

/-- A configuration as it is kept. -/
structure Configuration where
  dialect : Dialect
  /-- How the entities are stored. -/
  mapping : Mapping
deriving DecidableEq

/-- The version of the configuration format. -/
def Configuration.version : String :=
  "1"

/-- The configuration without entities. -/
def Configuration.empty : Configuration :=
  ⟨.postgresql, .empty⟩

/-! ## The JSON document -/

def TableName.toJson (t : TableName) : Json :=
  .object ((match t.schema with
    | some schema => [("schemaName", .string schema)]
    | none => []) ++ [("tableName", .string t.name)])

def Column.toJson (c : Column) : Json :=
  .object [("name", .string c.name), ("type", .string c.type.name),
    ("nullable", .string c.nullability.name)]

def ExtensionTable.toJson (x : ExtensionTable) : Json :=
  .object [("table", x.table.toJson), ("joinColumn", .string x.joinColumn)]

def PropertyMapping.toJson (p : PropertyMapping) : Json :=
  .object (("name", .string p.name) :: (match p.extensionTable with
    | some reference => [("extensionTable", .string reference)]
    | none => []) ++ [("column", p.column.toJson), ("converter", .string p.converter.name)])

def EntityMapping.toJson (m : EntityMapping) : Json :=
  .object ([("primaryTable", m.primaryTable.toJson), ("primaryKey", .string m.primaryKey)]
    ++ (match m.extensionTables with
      | [] => []
      | tables => [("extensionTables", .array (tables.map ExtensionTable.toJson))])
    ++ [("properties", .array (m.properties.map PropertyMapping.toJson))])

def Mapping.toJson (m : Mapping) : Json :=
  .object [("entities", .object (m.entities.entries.map fun e => (e.1, e.2.toJson)))]

def Configuration.toJson (c : Configuration) : Json :=
  .object [("version", .string Configuration.version), ("dialect", .string c.dialect.name),
    ("metadata", c.mapping.toJson)]

/-! ## Use -/

/-- A configuration in use. -/
structure Runtime where
  dialect : Dialect
  /-- The checked entities. -/
  registry : Registry
deriving DecidableEq

/-- Why a configuration cannot be used. -/
inductive ActivationError
  | invalidMappings (error : RegistrationError)
deriving DecidableEq

def ActivationError.message : ActivationError → String
  | .invalidMappings e => "invalid entity mappings: " ++ e.message

/-- Check the mapping of a configuration. -/
def Configuration.activate (c : Configuration) : Except ActivationError Runtime :=
  match Registry.ofMapping c.mapping with
  | .error e => .error (.invalidMappings e)
  | .ok registry => .ok ⟨c.dialect, registry⟩

end EntityQuery
