import EntityQuery.Mapping.Basic
import EntityQuery.Text.Blank
import EntityQuery.Text.Split

/-!
# Entity descriptors

A descriptor is a checked entity mapping: every property is bound to a column of
the primary table or of a declared extension table. Checking stops at the first
fault, in this order: the extension tables as declared, the properties as
declared, the primary key.

## Main definitions

- `PropertyBinding`, `EntityDescriptor` — a bound property, a checked entity
- `RegistrationError` — the faults of a mapping
- `EntityDescriptor.ofMapping` — check an entity mapping
- `LookupError` — an entity or a property that is not there
-/

namespace EntityQuery

/-- A property bound to the column it is kept in. -/
structure PropertyBinding where
  property : String
  /-- The table that holds the column. -/
  table : TableName
  column : Column
  /-- How values become their stored form. -/
  converter : Converter
  /-- The column the table is joined by, if it is an extension table. -/
  joinColumn : Option String
deriving DecidableEq

/-- Is the property kept in an extension table? -/
def PropertyBinding.isExtension (b : PropertyBinding) : Bool :=
  b.joinColumn.isSome

/-- The faults of a mapping. -/
inductive RegistrationError
  | duplicateEntity (entity : String)
  | duplicateProperty (entity property : String)
  | duplicateExtensionTable (entity : String) (table : TableName)
  | undeclaredExtensionTable (entity property reference : String)
  | ambiguousExtensionTable (entity property reference : String)
  | missingJoinColumn (entity : String) (table : TableName)
  | unmappedPrimaryKey (entity column : String)
deriving DecidableEq

def RegistrationError.message : RegistrationError → String
  | .duplicateEntity entity => s!"entity '{entity}' is registered more than once"
  | .duplicateProperty entity property =>
    s!"property '{property}' of entity '{entity}' is mapped more than once"
  | .duplicateExtensionTable entity table =>
    s!"extension table '{table.toText}' of entity '{entity}' is declared more than once"
  | .undeclaredExtensionTable entity property reference =>
    s!"property '{property}' of entity '{entity}' refers to undeclared extension table '{reference}'"
  | .ambiguousExtensionTable entity property reference =>
    s!"property '{property}' of entity '{entity}' refers to extension table '{reference}'"
      ++ ", which is declared in several schemas"
  | .missingJoinColumn entity table =>
    s!"extension table '{table.toText}' of entity '{entity}' has an empty join column"
  | .unmappedPrimaryKey entity column =>
    s!"primary key column '{column}' of entity '{entity}' is not mapped to a primary table property"

/-- An entity or a property that is not there. -/
inductive LookupError
  | unknownEntity (entity : String)
  | unmappedProperty (entity property : String)
deriving DecidableEq

def LookupError.message : LookupError → String
  | .unknownEntity entity => s!"entity '{entity}' is not registered"
  | .unmappedProperty entity property =>
    s!"property '{property}' is not mapped for entity '{entity}'"

/-- A checked entity. -/
structure EntityDescriptor where
  name : String
  /-- The table with one row per entity. -/
  primaryTable : TableName
  /-- The column of the primary table that extension tables are joined by. -/
  primaryKey : String
  /-- The secondary tables, as declared. -/
  extensionTables : List ExtensionTable
  /-- The bound properties, as declared. -/
  bindings : List PropertyBinding
deriving DecidableEq

namespace EntityDescriptor

/-- The binding of a property. -/
def binding (e : EntityDescriptor) (property : String) : Except LookupError PropertyBinding :=
  match e.bindings.find? (·.property == property) with
  | some b => .ok b
  | none => .error (.unmappedProperty e.name property)

/-- The bindings of the properties kept in the primary table, as declared. -/
def primaryBindings (e : EntityDescriptor) : List PropertyBinding :=
  e.bindings.filter (!·.isExtension)

end EntityDescriptor

/-- Does a reference name this extension table? A reference with a point names
  schema and table, one without a point the table within any schema. -/
def ExtensionTable.isReferredBy (x : ExtensionTable) (reference : String) : Bool :=
  match Text.splitOnce '.' reference.toList with
  | (schema, some name) =>
    x.table.schema == some (String.ofList schema) && x.table.name == String.ofList name
  | (_, none) => x.table.name == reference

namespace EntityMapping

/-- Check the extension tables that follow those already accepted. -/
def checkExtensions (entity : String) (primary : TableName) (accepted : List ExtensionTable) :
    List ExtensionTable → Except RegistrationError Unit
  | [] => .ok ()
  | x :: rest =>
    if Text.isBlank x.joinColumn then .error (.missingJoinColumn entity x.table)
    else if x.table = primary ∨ x.table ∈ accepted.map ExtensionTable.table then
      .error (.duplicateExtensionTable entity x.table)
    else checkExtensions entity primary (accepted ++ [x]) rest

/-- The extension table that a property refers to. -/
def resolveExtension (entity property reference : String) (extensions : List ExtensionTable) :
    Except RegistrationError ExtensionTable :=
  match extensions.filter (·.isReferredBy reference) with
  | [] => .error (.undeclaredExtensionTable entity property reference)
  | [x] => .ok x
  | _ :: _ :: _ => .error (.ambiguousExtensionTable entity property reference)

/-- Bind a property to the column it is kept in. -/
def bind (entity : String) (m : EntityMapping) (p : PropertyMapping) :
    Except RegistrationError PropertyBinding :=
  match p.extensionTable with
  | none => .ok ⟨p.name, m.primaryTable, p.column, p.converter, none⟩
  | some reference =>
    match resolveExtension entity p.name reference m.extensionTables with
    | .error e => .error e
    | .ok x => .ok ⟨p.name, x.table, p.column, p.converter, some x.joinColumn⟩

/-- Bind the properties that follow those already bound. -/
def bindAll (entity : String) (m : EntityMapping) (bound : List PropertyBinding) :
    List PropertyMapping → Except RegistrationError (List PropertyBinding)
  | [] => .ok bound
  | p :: rest =>
    match m.bind entity p with
    | .error e => .error e
    | .ok b =>
      if p.name ∈ bound.map PropertyBinding.property then
        .error (.duplicateProperty entity p.name)
      else bindAll entity m (bound ++ [b]) rest

/-- Is the primary key the column of a property kept in the primary table? -/
def keyIsBound (m : EntityMapping) (bindings : List PropertyBinding) : Bool :=
  bindings.any fun b => !b.isExtension && b.column.name == m.primaryKey

end EntityMapping

/-- Check an entity mapping. -/
def EntityDescriptor.ofMapping (entity : String) (m : EntityMapping) :
    Except RegistrationError EntityDescriptor :=
  match EntityMapping.checkExtensions entity m.primaryTable [] m.extensionTables with
  | .error e => .error e
  | .ok () =>
    match m.bindAll entity [] m.properties with
    | .error e => .error e
    | .ok bindings =>
      if m.keyIsBound bindings then
        .ok ⟨entity, m.primaryTable, m.primaryKey, m.extensionTables, bindings⟩
      else .error (.unmappedPrimaryKey entity m.primaryKey)

end EntityQuery
