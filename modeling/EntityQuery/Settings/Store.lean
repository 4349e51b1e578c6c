import EntityQuery.Json.Decode
import EntityQuery.Settings.Constraint

/-!
# Stored settings

Settings are kept as texts in a dictionary, each kind under its own key, as a
JSON document with a version beside the settings themselves. They are checked
against the constraint of their kind both when they are saved and when they are
loaded.

## Main definitions

- `SettingsKind` — a kind of settings: key, version, constraint, JSON form
- `Envelope` — a version beside settings
- `SettingsError` — why settings cannot be loaded or saved
- `SettingsKind.load`, `SettingsKind.save`
-/

namespace EntityQuery

/-- A kind of settings. -/
structure SettingsKind (α : Type) where
  /-- The key the settings are kept under. -/
  key : String
  /-- The version written beside them and expected there. -/
  version : String
  /-- The settings in use when none are kept. -/
  default : α
  /-- What is asked of their JSON form, or why that cannot be said. -/
  constraint : Except String Constraint
  /-- The JSON form, its members in key order. -/
  encode : α → Json
  decode : Json → Except Json.Cause α

/-- A version beside settings. -/
structure Envelope where
  version : String
  settings : Json

def Envelope.toJson (e : Envelope) : Json :=
  .object [("version", .string e.version), ("settings", e.settings)]

/-- The fields of an envelope that have been read. -/
structure EnvelopeDraft where
  version : Option String := none
  settings : Option Json := none

open Json in
/-- The record form of an envelope. -/
def Envelope.record : Record EnvelopeDraft Envelope where
  name := "Envelope"
  draft := {}
  slots :=
    [.of "version" EnvelopeDraft.version (fun a d => { d with version := some a }) textReader,
     .of "settings" EnvelopeDraft.settings (fun a d => { d with settings := some a })
      valueReader]
  finish d := do
    let version ← required "version" d.version
    let settings ← required "settings" d.settings
    return { version, settings }

/-- Why settings cannot be loaded or saved. -/
inductive SettingsError
  /-- The text is no envelope. -/
  | malformed (key text : String) (fault : Json.Fault)
  /-- The settings are not of their kind. -/
  | unsuitable (key : String) (cause : Json.Cause)
  /-- They were kept by another version. -/
  | versionMismatch (key expected found : String)
  /-- They violate the constraint of their kind. -/
  | invalid (key : String) (violations : List Violation)
  /-- Their constraint cannot be said. -/
  | noConstraint (key reason : String)

def SettingsError.message : SettingsError → String
  | .malformed key text fault =>
    s!"settings '{key}' are not valid JSON: " ++ fault.message text.toList
  | .unsuitable key cause => s!"settings '{key}' are not valid JSON: " ++ cause.message
  | .versionMismatch key expected found =>
    s!"settings '{key}' have version \"{found}\", expected \"{expected}\""
  | .invalid key violations =>
    s!"settings '{key}' do not match their schema: "
      ++ String.intercalate "; " (violations.map Violation.message)
  | .noConstraint key reason => s!"the schema of settings '{key}' does not compile: {reason}"

namespace SettingsKind

variable {α : Type}

/-- Check the JSON form of settings. -/
def validate (kind : SettingsKind α) (value : Json) : Except SettingsError Unit :=
  match kind.constraint with
  | .error reason => .error (.noConstraint kind.key reason)
  | .ok constraint =>
    match constraint.violations value with
    | [] => .ok ()
    | violations => .error (.invalid kind.key violations)

/-- The settings of a kind, or their default if none are kept. -/
def load (kind : SettingsKind α) (store : Dict String) : Except SettingsError α :=
  match store.find? kind.key with
  | none => .ok kind.default
  | some text =>
    match Json.decode Envelope.record.reader text with
    | .error fault => .error (.malformed kind.key text fault)
    | .ok envelope =>
      if envelope.version ≠ kind.version then
        .error (.versionMismatch kind.key kind.version envelope.version)
      else match kind.validate envelope.settings with
        | .error e => .error e
        | .ok () => (kind.decode envelope.settings).mapError (.unsuitable kind.key)

/-- The text that settings are kept as. -/
def text (kind : SettingsKind α) (settings : α) : String :=
  (Envelope.toJson ⟨kind.version, kind.encode settings⟩).compact

/-- Keep settings, unless they are not valid. -/
def save (kind : SettingsKind α) (store : Dict String) (settings : α) :
    Except SettingsError (Dict String) :=
  match kind.validate (kind.encode settings) with
  | .error e => .error e
  | .ok () => .ok (store.insert kind.key (kind.text settings))

end SettingsKind

end EntityQuery
