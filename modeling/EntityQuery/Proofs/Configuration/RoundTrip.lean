import EntityQuery.Proofs.Configuration.Listing
import EntityQuery.Proofs.Json.Written
import EntityQuery.Storefront

/-!
# Configurations survive being stored

A configuration that is written into a directory is the one that is loaded from it.

## Main definitions

- `Location.IsFree` — both files of a configuration can be written

## Main statements

- `Configuration.Listing.ofText_fileText` — a document is read as the listing it was written
  from, in both passes
- `Configuration.ofText_fileText` — the text of a configuration file is read as the
  configuration it was written from
- `Configuration.store_eq_ok_iff` — where a configuration can be written
- `Configuration.load_store` — what has been written is loaded
-/

namespace EntityQuery

open Json

-- ════════════════════════════════════════════════════════════════════════
-- Names
-- ════════════════════════════════════════════════════════════════════════

theorem Dialect.find?_name (d : Dialect) :
    Entries.find? d.name (Dialect.all.map fun d => (d.name, d)) = some d := by
  cases d <;> rfl

theorem ScalarType.find?_name (t : ScalarType) :
    Entries.find? t.name (ScalarType.all.map fun t => (t.name, t)) = some t := by
  cases t <;> rfl

theorem Nullability.find?_name (x : Nullability) :
    Entries.find? x.name (Nullability.all.map fun n => (n.name, n)) = some x := by
  cases x <;> rfl

theorem Converter.find?_name (c : Converter) :
    Entries.find? c.name (Converter.all.map fun c => (c.name, c)) = some c := by
  cases c <;> rfl

-- ════════════════════════════════════════════════════════════════════════
-- Records
-- ════════════════════════════════════════════════════════════════════════

theorem TableName.represents_toJson (t : TableName) :
    Represents TableName.record.reader 1 t.toJson t := by
  obtain ⟨schema, name⟩ := t
  have hname := represents_text name
  cases schema with
  | none => exact represents_record (.cons rfl rfl hname .nil) rfl
  | some schema =>
    have hschema := represents_optional_text schema
    exact represents_record (.cons rfl rfl hschema (.cons rfl rfl hname .nil)) rfl

theorem Column.represents_toJson (c : Column) :
    Represents Column.record.reader 1 c.toJson c := by
  have hname := represents_text c.name
  have htype := represents_choice c.type.find?_name
  have hnullable := represents_choice c.nullability.find?_name
  exact represents_record
    (.cons rfl rfl hname (.cons rfl rfl htype (.cons rfl rfl hnullable .nil))) rfl

theorem ExtensionTable.represents_toJson (x : ExtensionTable) :
    Represents ExtensionTable.record.reader 2 x.toJson x := by
  have htable := x.table.represents_toJson
  have hcolumn := (represents_text x.joinColumn).mono (Nat.zero_le 1)
  exact represents_record (.cons rfl rfl htable (.cons rfl rfl hcolumn .nil)) rfl

theorem PropertyMapping.represents_toJson (p : PropertyMapping) :
    Represents PropertyMapping.record.reader 2 p.toJson p := by
  obtain ⟨name, reference, column, converter⟩ := p
  have hname := (represents_text name).mono (Nat.zero_le 1)
  have hcolumn := column.represents_toJson
  have hconverter := (represents_choice converter.find?_name).mono (Nat.zero_le 1)
  cases reference with
  | none =>
    exact represents_record
      (.cons rfl rfl hname (.cons rfl rfl hcolumn (.cons rfl rfl hconverter .nil))) rfl
  | some reference =>
    have hreference := (represents_optional_text reference).mono (Nat.zero_le 1)
    exact represents_record (.cons rfl rfl hname (.cons rfl rfl hreference
      (.cons rfl rfl hcolumn (.cons rfl rfl hconverter .nil)))) rfl

theorem EntityMapping.represents_toJson (m : EntityMapping) :
    Represents EntityMapping.record.reader 4 m.toJson m := by
  obtain ⟨table, key, extensions, properties⟩ := m
  have htable := table.represents_toJson.mono (Nat.le_add_left 1 2)
  have hkey := (represents_text key).mono (Nat.zero_le 3)
  have hproperties := represents_list PropertyMapping.represents_toJson properties
  cases extensions with
  | nil =>
    exact represents_record
      (.cons rfl rfl htable (.cons rfl rfl hkey (.cons rfl rfl hproperties .nil))) rfl
  | cons x xs =>
    have hextensions := represents_list ExtensionTable.represents_toJson (x :: xs)
    exact represents_record (.cons rfl rfl htable (.cons rfl rfl hkey
      (.cons rfl rfl hextensions (.cons rfl rfl hproperties .nil)))) rfl

theorem Mapping.represents_listing (members : List (String × EntityMapping)) :
    Represents listingRecord.reader 6
      (.object [("entities", .object (members.map fun e => (e.1, e.2.toJson)))]) members := by
  have hmembers := represents_members EntityMapping.represents_toJson members
  exact represents_record (.cons rfl rfl hmembers .nil) rfl

namespace Configuration

theorem Listing.represents_toJson (l : Listing) : Represents record.reader 7 l.toJson l := by
  have hversion : Represents (choiceReader [(version, ())]) 6 (.string version) () :=
    (represents_choice rfl).mono (Nat.zero_le 6)
  have hdialect := (represents_choice l.dialect.find?_name).mono (Nat.zero_le 6)
  have hmembers := Mapping.represents_listing l.members
  exact represents_record
    (.cons rfl rfl hversion (.cons rfl rfl hdialect (.cons rfl rfl hmembers .nil))) rfl

-- ════════════════════════════════════════════════════════════════════════
-- Texts
-- ════════════════════════════════════════════════════════════════════════

namespace Listing

/-- The text of a file is read as its document is. -/
theorem readAll_fileText {α : Type} {scanner : Scanner α} {l : Listing} {a : α}
    (h : Scans scanner l.toJson a) : readAll scanner l.fileText.toList = .ok a := by
  have htext : l.fileText.toList = l.toJson.prettyChars 0 ++ ['\n'] := by simp [fileText, pretty]
  have hread : scanner l.fileText.toList = .ok (a, ['\n']) := by
    refine h 0 _ _ ?_
    rw [htext, l.represents_toJson.opens.skipSpace]
  rw [readAll, hread]
  rfl

/-- The first pass finds the version. -/
theorem exists_document (l : Listing) :
    ∃ document, Json.parse l.fileText = .ok document ∧ checkVersion document = .ok () := by
  let mapping : Json := .object [("entities", .object (l.members.map fun e => (e.1, e.2.toJson)))]
  -- The document opens seven brackets inside each other at most, and 120 more are allowed.
  have hnests := (Mapping.represents_listing l.members).nests 120
  obtain ⟨read, hread⟩ := hnests.exists_scans
  have hmembers : List.Forall₂ (ScansMember (readValue 126))
      [("version", .string version), ("dialect", .string l.dialect.name), ("metadata", mapping)]
      [("version", .string version), ("dialect", .string l.dialect.name), ("metadata", read)] :=
    .cons ⟨rfl, scans_value_string 126 _⟩
      (.cons ⟨rfl, scans_value_string 126 _⟩ (.cons ⟨rfl, hread⟩ .nil))
  have hopens : ∀ m ∈ [("version", .string version), ("dialect", .string l.dialect.name),
      ("metadata", mapping)], Opens m.2 := by
    simpa using ⟨Nests.string (n := 0).opens, Nests.string (n := 0).opens, hnests.opens⟩
  refine ⟨_, readAll_fileText (scans_value_object hmembers hopens), ?_⟩
  simp [checkVersion, member?, collect, Entries.find?_insert]

/-- The text of a file is read as the listing it was written from. -/
theorem ofText_fileText (l : Listing) : ofText l.fileText = .ok l := by
  obtain ⟨document, hparse, hversion⟩ := l.exists_document
  have hread : decode record.reader l.fileText = .ok l :=
    readAll_fileText (l.represents_toJson.scans 120)
  rw [ofText, hparse]
  simp only [hversion, hread]
  rfl

end Listing

/-- A configuration lists its entities in name order. -/
theorem ofText_fileText (c : Configuration) : ofText c.fileText = .ok c := by
  let l : Listing := ⟨c.dialect, c.mapping.entities.entries⟩
  have htext : c.fileText = l.fileText := rfl
  have hkept : l.kept = c := by rw [Listing.kept, Dict.ofList_entries]
  rw [htext, ofText_eq, l.ofText_fileText, Except.map, hkept]

-- ════════════════════════════════════════════════════════════════════════
-- Files
-- ════════════════════════════════════════════════════════════════════════

end Configuration

/-- Nothing is in the way of the two files: there is a directory or room for one, and no
  further directory stands under the name of a file. -/
def Location.IsFree : Location → Prop
  | .absent => True
  | .file => False
  | .directory d => d.configuration ≠ .directory ∧ d.schema ≠ .directory

theorem Entry.readText_file (text : String) : (file text.toUTF8).readText = .ok text := by
  have hvalid : String.fromUTF8? text.toUTF8 = some text := dif_pos text.isValidUTF8
  rw [readText]
  simp only [hvalid]

namespace Configuration

/-- A configuration can be written exactly where nothing is in the way. -/
theorem store_eq_ok_iff (c : Configuration) {place : Location} :
    (c.store place).2 = .ok () ↔ place.IsFree := by
  cases place with
  | absent => simp [store, openDirectory, Entry.writeText, Location.IsFree]
  | file => simp [store, openDirectory, Location.IsFree]
  | directory d =>
    obtain ⟨configuration, schema⟩ := d
    cases configuration <;> cases schema <;>
      simp [store, openDirectory, Entry.writeText, Location.IsFree]

theorem store_of_isFree (c : Configuration) {place : Location} (h : place.IsFree) :
    c.store place =
      (.directory ⟨.file c.fileText.toUTF8, .file schemaText.toUTF8⟩, .ok ()) := by
  cases place with
  | absent => rfl
  | file => exact h.elim
  | directory d =>
    obtain ⟨configuration, schema⟩ := d
    obtain ⟨hconfiguration, hschema⟩ := h
    cases configuration <;> cases schema <;> first | rfl | contradiction

/-- A configuration that has been written into a directory is the one that is loaded from it,
  whatever its names are made of and whatever stood there before. -/
theorem load_store (c : Configuration) {place : Location} (h : place.IsFree) :
    ∃ d, c.store place = (.directory d, .ok ()) ∧ load d = .ok c := by
  refine ⟨_, c.store_of_isFree h, ?_⟩
  rw [load]
  simp only [Entry.readText_file, ofText_fileText]

end Configuration

/-- The storefront with an entity whose names hold quotes, backslashes, controls and characters
  beyond the basic plane. -/
def Storefront.awkward : Configuration where
  dialect := .sqlserver
  mapping := ⟨Storefront.mapping.entities.insert "\"\\\u0000\x1f\n"
    { primaryTable := ⟨some "", "\x08\x0c\r\t/"⟩
      primaryKey := "\x7f\u2028𝄞"
      properties := [Storefront.property "" "名" .real .nullable] }⟩

theorem Storefront.load_awkward :
    Location.IsFree (.directory ⟨.file "previous".toUTF8, .absent⟩) ∧
      ∃ d, awkward.store (.directory ⟨.file "previous".toUTF8, .absent⟩) =
          (.directory d, .ok ()) ∧ Configuration.load d = .ok awkward := by
  have hfree : Location.IsFree (.directory ⟨.file "previous".toUTF8, .absent⟩) := by
    simp [Location.IsFree]
  exact ⟨hfree, Configuration.load_store awkward hfree⟩

end EntityQuery
