import EntityQuery.Configuration.Document
import EntityQuery.Configuration.Schema

/-!
# Configuration directories

A configuration is kept in a directory as `configuration.json`, beside a
description of the format in `schema.json`. A directory is described by what
stands under these two names.

## Main definitions

- `Entry`, `Directory`, `Location` — a file name, a directory, a place for one
- `StorageFault` — why a file cannot be read or written
- `Configuration.load` — read the configuration of a directory
- `Configuration.store` — write a configuration into a directory
-/

namespace EntityQuery

/-- What stands under a file name. -/
inductive Entry
  | absent
  | file (bytes : ByteArray)
  | directory

/-- What a directory holds under the two names of a configuration. -/
structure Directory where
  /-- Under `configuration.json`. -/
  configuration : Entry := .absent
  /-- Under `schema.json`. -/
  schema : Entry := .absent

/-- What stands at the place of a directory. -/
inductive Location
  | absent
  | file
  | directory (contents : Directory)

/-- Why a file cannot be read or written. -/
inductive StorageFault
  | notFound
  | alreadyExists
  | isDirectory
  | invalidText
deriving DecidableEq

def StorageFault.message : StorageFault → String
  | .notFound => "No such file or directory (os error 2)"
  | .alreadyExists => "File exists (os error 17)"
  | .isDirectory => "Is a directory (os error 21)"
  | .invalidText => "stream did not contain valid UTF-8"

namespace Entry

/-- Read the text of a file. -/
def readText : Entry → Except StorageFault String
  | .absent => .error .notFound
  | .directory => .error .isDirectory
  | .file bytes =>
    match String.fromUTF8? bytes with
    | some text => .ok text
    | none => .error .invalidText

/-- Write a text to a file, replacing an earlier one. -/
def writeText (text : String) : Entry → Except StorageFault Entry
  | .absent => .ok (.file text.toUTF8)
  | .file _ => .ok (.file text.toUTF8)
  | .directory => .error .isDirectory

end Entry

namespace Configuration

/-- The name of the configuration file. -/
def fileName : String :=
  "configuration.json"

/-- Why the configuration of a directory cannot be read. -/
inductive LoadError
  | unreadable (fault : StorageFault)
  | malformed (text : String) (fault : Json.Fault)
  | missingVersion
  | unsupportedVersion (version : String)
deriving DecidableEq

/-- The message of a load error, given the path of the directory. -/
def LoadError.message (directory : String) (e : LoadError) : String :=
  let path := directory ++ "/" ++ fileName
  match e with
  | .unreadable f => s!"could not read {path}: " ++ f.message
  | .malformed text f =>
    let p := f.place text.toList
    s!"parse error on {path}:" ++ Nat.repr p.line ++ ":" ++ Nat.repr p.column ++ ": "
      ++ f.message text.toList
  | .missingVersion => s!"did not find expected version tag in {path}"
  | .unsupportedVersion v => s!"unsupported configuration version \"{v}\" in {path}"

/-- Read the configuration of a directory. -/
def load (d : Directory) : Except LoadError Configuration :=
  match d.configuration.readText with
  | .error f => .error (.unreadable f)
  | .ok text =>
    match ofText text with
    | .ok c => .ok c
    | .error (.fault f) => .error (.malformed text f)
    | .error .missingVersion => .error .missingVersion
    | .error (.unsupportedVersion v) => .error (.unsupportedVersion v)

/-- The text of the configuration file. -/
def fileText (c : Configuration) : String :=
  c.toJson.pretty ++ "\n"

/-- The text of the file that describes the format. -/
def schemaText : String :=
  schema.pretty ++ "\n"

/-- The directory at a place, made if there is nothing. -/
def openDirectory : Location → Except StorageFault Directory
  | .absent => .ok {}
  | .file => .error .alreadyExists
  | .directory d => .ok d

/-- Write a configuration into a directory: first the configuration file, then
  the description of the format. What has been written before a fault remains. -/
def store (c : Configuration) (place : Location) : Location × Except StorageFault Unit :=
  match openDirectory place with
  | .error f => (place, .error f)
  | .ok d =>
    match d.configuration.writeText c.fileText with
    | .error f => (.directory d, .error f)
    | .ok configuration =>
      let d := { d with configuration }
      match d.schema.writeText schemaText with
      | .error f => (.directory d, .error f)
      | .ok schema => (.directory { d with schema }, .ok ())

end Configuration

end EntityQuery
