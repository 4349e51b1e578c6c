import EntityQuery.Json.Skip

/-!
# Reading typed values

Readers for values of a known form: texts, optional values, choices among names,
lists, dictionaries and records. They read the text itself, so a fault is the
first one in reading order, be it of the text or of the form.

A record is written as an object or as a list of its fields. In an object unknown
keys are passed over, a key must not be repeated, and fields with a default may
be missing. In a list the last fields may be missing if they have a default.

## Main definitions

- `Json.textReader`, `Json.optionalReader`, `Json.choiceReader`,
  `Json.listReader`, `Json.dictReader` — the readers of simple forms
- `Json.Slot`, `Json.Record` — a field, and a record built from fields
- `Json.Record.reader` — the reader of a record
- `Json.decode` — a whole text as a value of a known form
-/

namespace EntityQuery.Json

/-- The fault of a value of another form than expected. A scalar is read to tell
  which one it is; the fault stands after it, or before the bracket. -/
def unexpected (expected : String) (s : List Char) : Fault :=
  match s with
  | [] => faultPast .endInValue []
  | 'n' :: rest =>
    match scanWord ['u', 'l', 'l'] rest with
    | .error f => f
    | .ok r => faultAt (.invalidType .null expected) r
  | 't' :: rest =>
    match scanWord ['r', 'u', 'e'] rest with
    | .error f => f
    | .ok r => faultAt (.invalidType (.bool true) expected) r
  | 'f' :: rest =>
    match scanWord ['a', 'l', 's', 'e'] rest with
    | .error f => f
    | .ok r => faultAt (.invalidType (.bool false) expected) r
  | '"' :: rest =>
    match readText rest with
    | .error f => f
    | .ok (t, r) => faultAt (.invalidType (.string t) expected) r
  | '[' :: _ => faultAt (.invalidType .array expected) s
  | '\x7b' :: _ => faultAt (.invalidType .object expected) s
  | c :: _ =>
    if c = '-' || c.isDigit then
      match scanNumber s with
      | .error f => f
      | .ok (n, r) => faultAt (.invalidType (.number n) expected) r
    else faultPast .valueExpected s

/-- The reader of a text. -/
def textReader : Reader String := fun _ s =>
  match skipSpace s with
  | '"' :: rest => readText rest
  | s => .error (unexpected "a string" s)

/-- The reader of any value. -/
def valueReader : Reader Json :=
  readValue

/-- The reader of nothing, written as `null`. -/
def unitReader : Reader Unit := fun _ s =>
  match skipSpace s with
  | 'n' :: rest => (scanWord ['u', 'l', 'l'] rest).map fun r => ((), r)
  | s => .error (unexpected "unit" s)

/-- The reader of something that may be `null`. -/
def optionalReader {α : Type} (reader : Reader α) : Reader (Option α) := fun brackets s =>
  match skipSpace s with
  | 'n' :: rest => (scanWord ['u', 'l', 'l'] rest).map fun r => (none, r)
  | s => (reader brackets s).map fun (a, r) => (some a, r)

/-- Read one of several names after its opening quote. -/
def readName {α : Type} (choices : List (String × α)) (s : List Char) :
    Except Fault (α × List Char) :=
  match readText s with
  | .error f => .error f
  | .ok (name, rest) =>
    match Entries.find? name choices with
    | some a => .ok (a, rest)
    | none => .error (faultAt (.unknownVariant name (Entries.keys choices)) rest)

/-- Read an object whose only key is one of several names and whose value is `null`,
  after its opening bracket. -/
def readNamedUnit {α : Type} (choices : List (String × α)) (s : List Char) :
    Except Fault (α × List Char) :=
  match skipSpace s with
  | '"' :: rest =>
    match readName choices rest with
    | .error f => .error f
    | .ok (a, s) =>
      match (passColon s).bind (unitReader 0) with
      | .error f => .error f
      | .ok ((), s) =>
        match skipSpace s with
        | '\x7d' :: rest => .ok (a, rest)
        | [] => .error (faultAt .endInObject [])
        | s => .error (faultAt .valueExpected s)
  | s => .error (unexpected "variant identifier" s)

/-- The reader of one of several names, written as a text or as an object with
  the name as its key and `null` as its value. -/
def choiceReader {α : Type} (choices : List (String × α)) : Reader α := fun brackets s =>
  match skipSpace s with
  | [] => .error (faultPast .endInValue [])
  | '"' :: rest => readName choices rest
  | '\x7b' :: rest =>
    if brackets = 0 then .error (faultPast .tooDeep ('\x7b' :: rest))
    else readNamedUnit choices rest
  | s => .error (faultPast .valueExpected s)

/-- The reader of a list. -/
def listReader {α : Type} (item : Reader α) : Reader (List α) := fun brackets s =>
  match skipSpace s, brackets with
  | '[' :: rest, 0 => .error (faultPast .tooDeep ('[' :: rest))
  | '[' :: rest, n + 1 => readItems (item n) (rest.length + 1) true rest
  | s, _ => .error (unexpected "a sequence" s)

/-- The reader of a dictionary; the last value of a repeated key is kept. -/
def dictReader {α : Type} (value : Reader α) : Reader (Dict α) := fun brackets s =>
  match skipSpace s, brackets with
  | '\x7b' :: rest, 0 => .error (faultPast .tooDeep ('\x7b' :: rest))
  | '\x7b' :: rest, n + 1 =>
    (readMembers (value n) (rest.length + 1) true rest).map fun (members, r) =>
      (Dict.ofList members, r)
  | s, _ => .error (unexpected "a map" s)

/-! ## Records -/

/-- A field of a record that is under construction as a draft. -/
structure Slot (σ : Type) where
  name : String
  /-- Has the field been read? -/
  isFilled : σ → Bool
  /-- Read the field into the draft. -/
  fill : σ → Reader σ

/-- A field given by its place in the draft. -/
def Slot.of {σ α : Type} (name : String) (get : σ → Option α) (set : α → σ → σ)
    (reader : Reader α) : Slot σ where
  name := name
  isFilled draft := (get draft).isSome
  fill draft brackets s := (reader brackets s).map fun (a, r) => (set a draft, r)

/-- A record built from a draft. -/
structure Record (σ α : Type) where
  /-- The name of the record, in messages. -/
  name : String
  /-- The draft before any field has been read. -/
  draft : σ
  /-- The fields, as declared. -/
  slots : List (Slot σ)
  /-- The finished record, or the first field that is missing and has no default. -/
  finish : σ → Except String α

namespace Record

variable {σ α : Type}

/-- The words for the record and its number of fields. -/
def lengthWords (r : Record σ α) : String :=
  "struct " ++ r.name ++ " with " ++ Nat.repr r.slots.length
    ++ (if r.slots.length = 1 then " element" else " elements")

/-- The end of a list of fields after the last one. -/
def closeList (s : List Char) : Except Fault (List Char) :=
  match skipSpace s with
  | [] => .error (faultPast .endInList [])
  | ']' :: rest => .ok rest
  | ',' :: rest =>
    match skipSpace rest with
    | ']' :: r => .error (faultPast .trailingComma (']' :: r))
    | s => .error (faultPast .trailingCharacters s)
  | s => .error (faultPast .trailingCharacters s)

/-- Finish a record whose list of fields has ended early. -/
def finishList (r : Record σ α) (draft : σ) (rest : List Char) : Except Fault (α × List Char) :=
  match r.finish draft with
  | .ok a => .ok (a, rest)
  | .error name =>
    let length := r.slots.findIdx (·.name == name)
    .error (faultAt (.invalidLength length r.lengthWords) rest)

/-- Read the fields of a list in order, up to and with its closing bracket. -/
def readList (r : Record σ α) (brackets : Nat) (draft : σ) :
    (slots : List (Slot σ)) → (first : Bool) → Scanner α
  | [], _, s =>
    match closeList s with
    | .error f => .error f
    | .ok rest => r.finishList draft rest
  | slot :: slots, first, s =>
    match nextItem first s with
    | .error f => .error f
    | .ok (.close rest) => r.finishList draft rest
    | .ok (.more s) =>
      match slot.fill draft brackets s with
      | .error f => .error f
      | .ok (draft, s) => readList r brackets draft slots false s

/-- The fault of a repeated key. It stands after the key and the blanks that
  follow, and after a closing bracket if that follows at once. -/
def repeated (name : String) (s : List Char) : Fault :=
  match skipSpace s with
  | '\x7d' :: rest => faultAt (.duplicateField name) rest
  | s => faultAt (.duplicateField name) s

/-- Read a member after its key: into its field, or past an unknown one. -/
def readMember (r : Record σ α) (brackets : Nat) (draft : σ) (key : String) (s : List Char) :
    Except Fault (σ × List Char) :=
  match r.slots.find? (·.name == key) with
  | none => ((passColon s).bind skipValue).map fun rest => (draft, rest)
  | some slot =>
    if slot.isFilled draft then .error (repeated key s)
    else (passColon s).bind (slot.fill draft brackets)

/-- Read the members of an object in any order, up to and with its closing bracket. -/
def readObject (r : Record σ α) (brackets : Nat) :
    (rounds : Nat) → σ → (first : Bool) → Scanner α
  | 0, _, _, _ => .error (faultAt .endInObject [])
  | n + 1, draft, first, s =>
    match nextMember first s with
    | .error f => .error f
    | .ok (.close rest) =>
      match r.finish draft with
      | .ok a => .ok (a, rest)
      | .error name => .error (faultAt (.missingField name) rest)
    | .ok (.more s) =>
      match readText s with
      | .error f => .error f
      | .ok (key, s) =>
        match r.readMember brackets draft key s with
        | .error f => .error f
        | .ok (draft, s) => readObject r brackets n draft false s

/-- The reader of a record. -/
def reader (r : Record σ α) : Reader α := fun brackets s =>
  match skipSpace s, brackets with
  | '[' :: rest, 0 => .error (faultPast .tooDeep ('[' :: rest))
  | '[' :: rest, n + 1 => r.readList n r.draft r.slots true rest
  | '\x7b' :: rest, 0 => .error (faultPast .tooDeep ('\x7b' :: rest))
  | '\x7b' :: rest, n + 1 => r.readObject n (rest.length + 1) r.draft true rest
  | s, _ => .error (unexpected ("struct " ++ r.name) s)

end Record

/-- A whole text as a value of a known form. -/
def decode {α : Type} (reader : Reader α) (text : String) : Except Fault α :=
  readAll (reader bracketLimit) text.toList

end EntityQuery.Json
