import EntityQuery.Json.Fault

/-!
# Extracting typed values from JSON values

A JSON value that has been read already can be taken for a value of a known
form. There is no text left to point at, so a failure is a cause without a place.

## Main definitions

- `Json.asText`, `Json.asOptional`, `Json.asNatural`, `Json.asDouble` — scalars
- `Json.Member`, `Json.Form` — a field, and a record built from fields
- `Json.Form.extract` — take a JSON value for a record
-/

namespace EntityQuery.Json

/-- Take a value for a text. -/
def asText : Json → Except Cause String
  | .string s => .ok s
  | j => .error (.invalidType j.shape "a string")

/-- Take a value for something that may be absent. -/
def asOptional {α : Type} (inner : Json → Except Cause α) : Json → Except Cause (Option α)
  | .null => .ok none
  | j => (inner j).map some

/-- Take a value for a natural number up to a bound. -/
def asNatural (typeName : String) (bound : Nat) : Json → Except Cause Nat
  | .number (.integer i) =>
    if 0 ≤ i ∧ i ≤ bound then .ok i.toNat
    else .error (.invalidValue (.number (.integer i)) typeName)
  | j => .error (.invalidType j.shape typeName)

/-- Take a value for a floating point number. -/
def asDouble (typeName : String) : Json → Except Cause Double
  | .number n => .ok n.toDouble
  | j => .error (.invalidType j.shape typeName)

/-- A field of a record that is under construction as a draft. -/
structure Member (σ : Type) where
  name : String
  fill : Json → σ → Except Cause σ

/-- A field given by its place in the draft. -/
def Member.of {σ α : Type} (name : String) (set : α → σ → σ) (take : Json → Except Cause α) :
    Member σ where
  name := name
  fill j draft := (take j).map fun a => set a draft

/-- A record built from a draft. -/
structure Form (σ α : Type) where
  /-- The name of the record, in messages. -/
  name : String
  /-- The draft before any field has been taken. -/
  draft : σ
  /-- The fields, as declared. -/
  members : List (Member σ)
  /-- The finished record, or the first field that is missing and has no default. -/
  finish : σ → Except String α

namespace Form

variable {σ α : Type}

/-- Take the members of an object in their order; unknown ones are passed over. -/
def fillObject (f : Form σ α) (draft : σ) : List (String × Json) → Except Cause σ
  | [] => .ok draft
  | (key, value) :: rest =>
    match f.members.find? (·.name == key) with
    | none => fillObject f draft rest
    | some m =>
      match m.fill value draft with
      | .error c => .error c
      | .ok draft => fillObject f draft rest

/-- Take the items of a list for the fields in order. The flag says whether every
  item has been taken. -/
def fillList (draft : σ) : List (Member σ) → List Json → Except Cause (σ × Bool)
  | [], items => .ok (draft, items.isEmpty)
  | _ :: _, [] => .ok (draft, true)
  | m :: members, item :: items =>
    match m.fill item draft with
    | .error c => .error c
    | .ok draft => fillList draft members items

/-- The words for the record and its number of fields. -/
def lengthWords (f : Form σ α) : String :=
  "struct " ++ f.name ++ " with " ++ Nat.repr f.members.length
    ++ (if f.members.length = 1 then " element" else " elements")

/-- Take a JSON value for a record: an object, or a list of the fields. -/
def extract (f : Form σ α) : Json → Except Cause α
  | .object members =>
    match f.fillObject f.draft members with
    | .error c => .error c
    | .ok draft =>
      match f.finish draft with
      | .ok a => .ok a
      | .error name => .error (.missingField name)
  | .array items =>
    match fillList f.draft f.members items with
    | .error c => .error c
    | .ok (draft, complete) =>
      match f.finish draft with
      | .error name =>
        .error (.invalidLength (f.members.findIdx (·.name == name)) f.lengthWords)
      | .ok a =>
        if complete then .ok a
        else .error (.invalidLength items.length "fewer elements in array")
  | j => .error (.invalidType j.shape ("struct " ++ f.name))

end Form

end EntityQuery.Json
