import EntityQuery.Configuration.Basic
import EntityQuery.Json.Decode

/-!
# Reading configuration documents

## Main definitions

- `Configuration.record` — the record form of a configuration
- `Configuration.ofText` — a whole document, its version being checked first
-/

namespace EntityQuery

open Json

/-- The fields of a table that have been read. -/
structure TableDraft where
  /-- The schema; absent, or read as absent or as a name. -/
  schema : Option (Option String) := none
  /-- The name within the schema. -/
  name : Option String := none

/-- The record form of a table. -/
def TableName.record : Record TableDraft TableName where
  name := "TableInfo"
  draft := {}
  slots :=
    [.of "schemaName" TableDraft.schema (fun a d => { d with schema := some a })
      (optionalReader textReader),
     .of "tableName" TableDraft.name (fun a d => { d with name := some a }) textReader]
  finish d := do
    let name ← required "tableName" d.name
    return { schema := d.schema.join, name }

/-- The fields of a column that have been read. -/
structure ColumnDraft where
  name : Option String := none
  type : Option ScalarType := none
  /-- May it be empty? -/
  nullability : Option Nullability := none

/-- The record form of a column. -/
def Column.record : Record ColumnDraft Column where
  name := "ColumnInfo"
  draft := {}
  slots :=
    [.of "name" ColumnDraft.name (fun a d => { d with name := some a }) textReader,
     .of "type" ColumnDraft.type (fun a d => { d with type := some a })
      (choiceReader (ScalarType.all.map fun t => (t.name, t))),
     .of "nullable" ColumnDraft.nullability (fun a d => { d with nullability := some a })
      (choiceReader (Nullability.all.map fun n => (n.name, n)))]
  finish d := do
    let name ← required "name" d.name
    let type ← required "type" d.type
    return { name, type, nullability := d.nullability.getD .nullable }

/-- The fields of an extension table that have been read. -/
structure ExtensionDraft where
  table : Option TableName := none
  /-- The column it is joined by. -/
  joinColumn : Option String := none

/-- The record form of an extension table. -/
def ExtensionTable.record : Record ExtensionDraft ExtensionTable where
  name := "ExtensionTableInfo"
  draft := {}
  slots :=
    [.of "table" ExtensionDraft.table (fun a d => { d with table := some a })
      TableName.record.reader,
     .of "joinColumn" ExtensionDraft.joinColumn (fun a d => { d with joinColumn := some a })
      textReader]
  finish d := do
    let table ← required "table" d.table
    let joinColumn ← required "joinColumn" d.joinColumn
    return { table, joinColumn }

/-- The fields of a property that have been read. -/
structure PropertyDraft where
  name : Option String := none
  /-- The extension table; absent, or read as absent or as a reference. -/
  extensionTable : Option (Option String) := none
  column : Option Column := none
  converter : Option Converter := none

/-- The record form of a property. -/
def PropertyMapping.record : Record PropertyDraft PropertyMapping where
  name := "PropertyInfo"
  draft := {}
  slots :=
    [.of "name" PropertyDraft.name (fun a d => { d with name := some a }) textReader,
     .of "extensionTable" PropertyDraft.extensionTable
      (fun a d => { d with extensionTable := some a }) (optionalReader textReader),
     .of "column" PropertyDraft.column (fun a d => { d with column := some a })
      Column.record.reader,
     .of "converter" PropertyDraft.converter (fun a d => { d with converter := some a })
      (choiceReader (Converter.all.map fun c => (c.name, c)))]
  finish d := do
    let name ← required "name" d.name
    let column ← required "column" d.column
    return { name, extensionTable := d.extensionTable.join, column
             converter := d.converter.getD .identity }

/-- The fields of an entity that have been read. -/
structure EntityDraft where
  primaryTable : Option TableName := none
  primaryKey : Option String := none
  extensionTables : Option (List ExtensionTable) := none
  /-- The properties. -/
  properties : Option (List PropertyMapping) := none

/-- The record form of an entity. -/
def EntityMapping.record : Record EntityDraft EntityMapping where
  name := "EntityInfo"
  draft := {}
  slots :=
    [.of "primaryTable" EntityDraft.primaryTable (fun a d => { d with primaryTable := some a })
      TableName.record.reader,
     .of "primaryKey" EntityDraft.primaryKey (fun a d => { d with primaryKey := some a })
      textReader,
     .of "extensionTables" EntityDraft.extensionTables
      (fun a d => { d with extensionTables := some a })
      (listReader ExtensionTable.record.reader),
     .of "properties" EntityDraft.properties (fun a d => { d with properties := some a })
      (listReader PropertyMapping.record.reader)]
  finish d := do
    let primaryTable ← required "primaryTable" d.primaryTable
    let primaryKey ← required "primaryKey" d.primaryKey
    let properties ← required "properties" d.properties
    return { primaryTable, primaryKey, extensionTables := d.extensionTables.getD [], properties }

/-- The record form of a mapping. -/
def Mapping.record : Record (Option (Dict EntityMapping)) Mapping where
  name := "Metadata"
  draft := none
  slots := [.of "entities" id (fun a _ => some a) (dictReader EntityMapping.record.reader)]
  finish d := do
    let entities ← required "entities" d
    return { entities }

/-- The fields of a configuration that have been read. -/
structure ConfigurationDraft where
  /-- The version, of which there is one only. -/
  version : Option Unit := none
  dialect : Option Dialect := none
  mapping : Option Mapping := none

namespace Configuration

/-- The record form of a configuration. -/
def record : Record ConfigurationDraft Configuration where
  name := "ParsedConfiguration"
  draft := {}
  slots :=
    [.of "version" ConfigurationDraft.version (fun a d => { d with version := some a })
      (choiceReader [(Configuration.version, ())]),
     .of "dialect" ConfigurationDraft.dialect (fun a d => { d with dialect := some a })
      (choiceReader (Dialect.all.map fun d => (d.name, d))),
     .of "metadata" ConfigurationDraft.mapping (fun a d => { d with mapping := some a })
      Mapping.record.reader]
  finish d := do
    let () ← required "version" d.version
    let dialect ← required "dialect" d.dialect
    return { dialect, mapping := d.mapping.getD .empty }

/-- Why a document is not a configuration. -/
inductive DocumentError
  | fault (fault : Fault)
  | missingVersion
  /-- The version is not the one that is read here. -/
  | unsupportedVersion (version : String)
deriving DecidableEq

/-- Check the version of a document. A version that is no text is shown as it
  would be written. -/
def checkVersion (document : Json) : Except DocumentError Unit :=
  match document.member? "version" with
  | none => .error .missingVersion
  | some (.string v) => if v = version then .ok () else .error (.unsupportedVersion v)
  | some j => .error (.unsupportedVersion j.compact)

/-- A whole document as a configuration. The text is read twice: as any JSON
  value for its version, and as a configuration. -/
def ofText (text : String) : Except DocumentError Configuration :=
  match Json.parse text with
  | .error f => .error (.fault f)
  | .ok document =>
    match checkVersion document with
    | .error e => .error e
    | .ok () => (Json.decode record.reader text).mapError .fault

end Configuration

end EntityQuery
