import EntityQuery.Configuration.Directory
import EntityQuery.Proofs.Json.Image

/-!
# What a configuration document lists

A document lists entities by name, in an order and perhaps with repeated names. The
configuration that is read from it keeps the last entity of every name.

## Main definitions

- `Configuration.Listing` — a dialect, and entities as a document lists them
- `Configuration.Listing.ofText` — a whole document as a listing
- `Configuration.Listing.kept` — the configuration that keeps the last entity of a name
- `Directory.Lists` — the configuration file of a directory gives a listing

## Main statements

- `Configuration.ofText_eq` — a document is read as what is kept of its listing
- `Configuration.load_eq_ok_iff` — the same for the configuration file of a directory

## Design notes

A listing is read by the readers that a configuration is read by; only the members of the
entities are not brought into a dictionary. So a document that cannot be read as a listing cannot
be read as a configuration either, and for the same reason.
-/

namespace EntityQuery

open Json

namespace Configuration

/-- A dialect, and entities as a document lists them. -/
structure Listing where
  dialect : Dialect
  /-- The entities by name, in the order of the document. -/
  members : List (String × EntityMapping)
deriving DecidableEq

/-- The names of the listed entities, in the order of the document. -/
def Listing.names (l : Listing) : List String :=
  Entries.keys l.members

/-- The configuration that keeps the last entity of every name. -/
def Listing.kept (l : Listing) : Configuration :=
  ⟨l.dialect, ⟨.ofList l.members⟩⟩

end Configuration

/-- The record form of a mapping, its entities being listed. -/
def Mapping.listingRecord :
    Record (Option (List (String × EntityMapping))) (List (String × EntityMapping)) where
  name := "Metadata"
  draft := none
  slots := [.of "entities" id (fun a _ => some a) (membersReader EntityMapping.record.reader)]
  finish d := required "entities" d

namespace Configuration

/-- The fields of a listing that have been read. -/
structure ListingDraft where
  version : Option Unit := none
  dialect : Option Dialect := none
  /-- The entities. -/
  members : Option (List (String × EntityMapping)) := none

namespace Listing

/-- The record form of a listing. -/
def record : Record ListingDraft Listing where
  name := "ParsedConfiguration"
  draft := {}
  slots :=
    [.of "version" ListingDraft.version (fun a d => { d with version := some a })
      (choiceReader [(Configuration.version, ())]),
     .of "dialect" ListingDraft.dialect (fun a d => { d with dialect := some a })
      (choiceReader (Dialect.all.map fun d => (d.name, d))),
     .of "metadata" ListingDraft.members (fun a d => { d with members := some a })
      Mapping.listingRecord.reader]
  finish d := do
    let () ← required "version" d.version
    let dialect ← required "dialect" d.dialect
    return { dialect, members := d.members.getD [] }

/-- A whole document as a listing, its version being checked first. -/
def ofText (text : String) : Except DocumentError Listing :=
  match Json.parse text with
  | .error f => .error (.fault f)
  | .ok document =>
    match checkVersion document with
    | .error e => .error e
    | .ok () => (Json.decode record.reader text).mapError .fault

/-- The document that lists the entities. -/
def toJson (l : Listing) : Json :=
  .object [("version", .string Configuration.version), ("dialect", .string l.dialect.name),
    ("metadata", .object [("entities", .object (l.members.map fun e => (e.1, e.2.toJson)))])]

/-- The text of a file with the document. -/
def fileText (l : Listing) : String :=
  l.toJson.pretty ++ "\n"

end Listing

end Configuration

/-- The configuration file of a directory can be read as a listing. -/
def Directory.Lists (d : Directory) (l : Configuration.Listing) : Prop :=
  ∃ text, d.configuration.readText = .ok text ∧ Configuration.Listing.ofText text = .ok l

-- ════════════════════════════════════════════════════════════════════════
-- What is kept
-- ════════════════════════════════════════════════════════════════════════

theorem Mapping.images_record : Record.Images (Option.map Dict.ofList)
    (fun members => (⟨.ofList members⟩ : Mapping)) listingRecord record where
  name := rfl
  draft := rfl
  slots := .cons (Slot.images_of (images_dictReader _) (fun d => by cases d <;> rfl)
    (fun _ _ => rfl)) .nil
  finish d := by cases d <;> rfl

namespace Configuration

/-- What has been read of a configuration when so much has been read of a listing. -/
def ListingDraft.kept (d : ListingDraft) : ConfigurationDraft :=
  ⟨d.version, d.dialect, d.members.map fun members => ⟨.ofList members⟩⟩

theorem images_record : Record.Images ListingDraft.kept Listing.kept Listing.record record where
  name := rfl
  draft := rfl
  slots :=
    .cons (Slot.images_of (images_id _) (fun _ => rfl) (fun _ _ => rfl))
      (.cons (Slot.images_of (images_id _) (fun _ => rfl) (fun _ _ => rfl))
        (.cons (Slot.images_of Mapping.images_record.reader (fun d => Option.isSome_map)
          (fun _ _ => rfl)) .nil))
  finish d := by
    obtain ⟨version, dialect, members⟩ := d
    cases version <;> cases dialect <;> cases members <;> rfl

/-- A document is read as what is kept of its listing, and refused for the same reasons. -/
theorem ofText_eq (text : String) : ofText text = (Listing.ofText text).map Listing.kept := by
  rw [ofText, Listing.ofText]
  cases Json.parse text with
  | error f => rfl
  | ok document =>
    simp only
    cases checkVersion document with
    | error e => rfl
    | ok _ =>
      simp only [images_record.reader.decode text]
      cases decode Listing.record.reader text <;> rfl

theorem load_eq_ok_iff {d : Directory} {c : Configuration} :
    load d = .ok c ↔ ∃ l, d.Lists l ∧ l.kept = c := by
  rw [load]
  cases htext : d.configuration.readText with
  | error f => simp [Directory.Lists, htext]
  | ok text =>
    simp only [Directory.Lists, htext, ofText_eq]
    cases hlisting : Listing.ofText text with
    | error e => cases e <;> simp [Except.map, hlisting]
    | ok l => simp [Except.map, hlisting]

end Configuration

end EntityQuery
