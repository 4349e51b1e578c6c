import EntityQuery.Configuration.Basic

/-!
# The description of the configuration format

A JSON Schema document that describes configuration files, for editors. It does
not depend on the configuration.

## Main definitions

- `Configuration.Schema.node` and its neighbours — the parts of a schema
- `Configuration.schema` — the schema document
-/

namespace EntityQuery.Configuration

namespace Schema

/-- A part of a schema, given by its keywords. -/
def node (keywords : List (String × Json)) : Json :=
  .object keywords

/-- A list of texts. -/
def texts (items : List String) : Json :=
  .array (items.map .string)

/-- The keyword that explains a part. -/
def description (words : String) : String × Json :=
  ("description", .string words)

/-- The keyword that restricts the type. -/
def type (name : String) : String × Json :=
  ("type", .string name)

/-- A reference to a definition. -/
def reference (definition : String) : Json :=
  node [("$ref", .string ("#/definitions/" ++ definition))]

/-- The keyword that takes over a definition beside other keywords. -/
def allOf (definition : String) : String × Json :=
  ("allOf", .array [reference definition])

def text : Json :=
  node [type "string"]

/-- A text that may be absent. -/
def optionalText : String × Json :=
  ("type", texts ["string", "null"])

/-- One of several names. -/
def choice (explanation : List (String × Json)) (names : List String) : Json :=
  node (explanation ++ [type "string", ("enum", texts names)])

/-- An object, its required members in alphabetical order. -/
def record (explanation : List (String × Json)) (required : List String)
    (properties : List (String × Json)) : Json :=
  node (explanation ++
    [type "object", ("required", texts required), ("properties", .object properties)])

def list (explanation : List (String × Json)) (item : String) : Json :=
  node (explanation ++ [type "array", ("items", reference item)])

/-- The schema of entities by name. -/
def entities : Json :=
  node [description "Mapping from an entity name to its storage information.", type "object",
    ("additionalProperties", reference "EntityInfo")]

/-- The schema of an entity. -/
def entity : Json :=
  record
    [description ("How one entity is stored: a primary table, optional extension tables and "
      ++ "the columns backing each property.")]
    ["primaryKey", "primaryTable", "properties"]
    [("primaryTable", reference "TableInfo"),
     ("primaryKey", node
       [description "The column of the primary table extension tables join against.",
        type "string"]),
     ("extensionTables", list [] "ExtensionTableInfo"),
     ("properties", list
       [description "Properties in declaration order. The order is used for projections."]
       "PropertyInfo")]

/-- The schema of a table. -/
def table : Json :=
  record [description "Information about a database table."] ["tableName"]
    [("schemaName", node [optionalText]), ("tableName", text)]

/-- The schema of an extension table. -/
def extensionTable : Json :=
  record [description "A secondary table holding more columns of an entity."]
    ["joinColumn", "table"]
    [("table", reference "TableInfo"),
     ("joinColumn", node
       [description "The column of this table holding the primary key of the entity.",
        type "string"])]

/-- The schema of a property. -/
def property : Json :=
  record [description "The column a single property is stored in."] ["column", "name"]
    [("name", text),
     ("extensionTable", node
       [description ("The extension table holding the column, as `table` or `schema.table`. "
          ++ "A bare name must identify one declared extension table. `None` for the primary "
          ++ "table."),
        optionalText]),
     ("column", reference "ColumnInfo"),
     ("converter", node
       [("default", .string Converter.identity.name), allOf "ValueConverter"])]

/-- The schema of a column. -/
def column : Json :=
  record [description "Information about a database column."] ["name", "type"]
    [("name", text), ("type", reference "ScalarType"),
     ("nullable", node [("default", .string Nullability.nullable.name), allOf "Nullable"])]

/-- What a converter does, in the schema. -/
def converterWords : Converter → String
  | .identity => "The value is stored as is; its kind must agree with the column type."
  | .enumAsInteger => "An enumerated value stored as its discriminant."
  | .enumAsText => "An enumerated value stored as its variant name."
  | .uuidAsText => "A uuid stored in a text column, hyphenated and lowercase."
  | .booleanAsInteger => "A boolean stored in an integral column as 0 or 1."

/-- The schema of a converter. -/
def converter : Json :=
  node [description "How an in-memory value becomes the storage representation of a column.",
    ("oneOf", .array (Converter.all.map fun c =>
      choice [description (converterWords c)] [c.name]))]

/-- The definitions that the document refers to. -/
def definitions : Json :=
  .object
    [("Version", choice [] [Configuration.version]),
     ("Dialect", choice [description "The supported database engines."]
       (Dialect.all.map Dialect.name)),
     ("Metadata", record [description "Metadata information."] ["entities"]
       [("entities", reference "EntitiesInfo")]),
     ("EntitiesInfo", entities),
     ("EntityInfo", entity),
     ("TableInfo", table),
     ("ExtensionTableInfo", extensionTable),
     ("PropertyInfo", property),
     ("ColumnInfo", column),
     ("ScalarType", choice [description "The storage types a mapped column may have."]
       (ScalarType.all.map ScalarType.name)),
     ("Nullable", choice [description "Can this column contain null values"]
       (Nullability.all.map Nullability.name)),
     ("ValueConverter", converter)]

/-- The members of a configuration. -/
def members : List (String × Json) :=
  [("version", node
     [description "Which version of the configuration format are we using.", allOf "Version"]),
   ("dialect", node
     [description "The database engine queries are written for.", allOf "Dialect"]),
   ("metadata", node [("default", Mapping.empty.toJson), allOf "Metadata"])]

end Schema

open Schema in
/-- The schema document. -/
def schema : Json :=
  node
    [("$schema", .string "http://json-schema.org/draft-07/schema#"),
     ("title", .string "ParsedConfiguration"),
     description "The configuration as it is stored on disk.",
     type "object",
     ("required", texts ["dialect", "version"]),
     ("properties", .object members),
     ("definitions", definitions)]

end EntityQuery.Configuration
