import EntityQuery.Json.Scan

/-!
# Reading JSON values

## Main definitions

- `Json.Step`, `Json.nextItem`, `Json.nextMember` — what follows in a list or an object
- `Json.readItems`, `Json.readMembers` — the items of a list, the members of an object
- `Json.readValue` — any JSON value, with a limit on open brackets
- `Json.parse` — a whole text as a JSON value

## Design notes

A loop over items takes the length of the text as the number of its rounds,
which suffices because every item takes at least one character.
-/

namespace EntityQuery.Json

/-- A function that reads the beginning of a text. -/
abbrev Scanner (α : Type) : Type :=
  List Char → Except Fault (α × List Char)

/-- What follows in a list or an object. -/
inductive Step
  /-- One more item, which begins here, or one more member, whose key begins here. -/
  | more (s : List Char)
  /-- The closing bracket, after which the text goes on here. -/
  | close (rest : List Char)

/-- What follows in a list, at its beginning or after an item. -/
def nextItem (first : Bool) (s : List Char) : Except Fault Step :=
  match skipSpace s with
  | [] => .error (faultPast .endInList [])
  | ']' :: rest => .ok (.close rest)
  | ',' :: rest =>
    if first then .ok (.more (',' :: rest))
    else match skipSpace rest with
      | [] => .error (faultPast .endInValue [])
      | ']' :: r => .error (faultPast .trailingComma (']' :: r))
      | s => .ok (.more s)
  | s => if first then .ok (.more s) else .error (faultPast .listEndExpected s)

/-- What follows in an object, at its beginning or after a member. The opening
  quote of a key is passed. -/
def nextMember (first : Bool) (s : List Char) : Except Fault Step :=
  match skipSpace s with
  | [] => .error (faultPast .endInObject [])
  | '\x7d' :: rest => .ok (.close rest)
  | ',' :: rest =>
    if first then .error (faultPast .keyExpected (',' :: rest))
    else match skipSpace rest with
      | [] => .error (faultPast .endInValue [])
      | '"' :: r => .ok (.more r)
      | '\x7d' :: r => .error (faultPast .trailingComma ('\x7d' :: r))
      | s => .error (faultPast .keyExpected s)
  | '"' :: rest =>
    if first then .ok (.more rest) else .error (faultPast .objectEndExpected ('"' :: rest))
  | s => .error (faultPast (if first then .keyExpected else .objectEndExpected) s)

/-- Pass the colon after a key. -/
def passColon (s : List Char) : Except Fault (List Char) :=
  match skipSpace s with
  | [] => .error (faultPast .endInObject [])
  | ':' :: rest => .ok rest
  | s => .error (faultPast .colonExpected s)

/-- Read a string after its opening quote. -/
def readText (s : List Char) : Except Fault (String × List Char) :=
  match scanString .plain s with
  | .error f => .error f
  | .ok (cs, rest) => .ok (String.ofList cs, rest)

/-- Read the items of a list up to and with its closing bracket. -/
def readItems {α : Type} (item : Scanner α) :
    (rounds : Nat) → (first : Bool) → Scanner (List α)
  | 0, _, _ => .error (faultAt .endInList [])
  | n + 1, first, s =>
    match nextItem first s with
    | .error f => .error f
    | .ok (.close rest) => .ok ([], rest)
    | .ok (.more s) =>
      match item s with
      | .error f => .error f
      | .ok (a, s) =>
        match readItems item n false s with
        | .error f => .error f
        | .ok (as, rest) => .ok (a :: as, rest)

/-- Read the members of an object up to and with its closing bracket. -/
def readMembers {α : Type} (value : Scanner α) :
    (rounds : Nat) → (first : Bool) → Scanner (List (String × α))
  | 0, _, _ => .error (faultAt .endInObject [])
  | n + 1, first, s =>
    match nextMember first s with
    | .error f => .error f
    | .ok (.close rest) => .ok ([], rest)
    | .ok (.more s) =>
      match readText s with
      | .error f => .error f
      | .ok (key, s) =>
        match passColon s with
        | .error f => .error f
        | .ok s =>
          match value s with
          | .error f => .error f
          | .ok (a, s) =>
            match readMembers value n false s with
            | .error f => .error f
            | .ok (as, rest) => .ok ((key, a) :: as, rest)

/-- The members of an object in key order, the last one of a repeated key. -/
def collect {α : Type} (members : List (String × α)) : List (String × α) :=
  members.foldl (fun acc m => Entries.insert m.1 m.2 acc) []

/-- Read any value, given how to read one inside a further bracket, if one may
  still be opened. -/
def readValueWith (inner : Option (Scanner Json)) (s : List Char) :
    Except Fault (Json × List Char) :=
  match skipSpace s with
  | [] => .error (faultPast .endInValue [])
  | 'n' :: rest => (scanWord ['u', 'l', 'l'] rest).map fun r => (.null, r)
  | 't' :: rest => (scanWord ['r', 'u', 'e'] rest).map fun r => (.bool true, r)
  | 'f' :: rest => (scanWord ['a', 'l', 's', 'e'] rest).map fun r => (.bool false, r)
  | '"' :: rest => (readText rest).map fun (t, r) => (.string t, r)
  | '[' :: rest =>
    match inner with
    | none => .error (faultPast .tooDeep ('[' :: rest))
    | some item =>
      (readItems item (rest.length + 1) true rest).map fun (items, r) => (.array items, r)
  | '\x7b' :: rest =>
    match inner with
    | none => .error (faultPast .tooDeep ('\x7b' :: rest))
    | some value =>
      (readMembers value (rest.length + 1) true rest).map fun (members, r) =>
        (.object (collect members), r)
  | c :: rest =>
    if c = '-' || c.isDigit then (scanNumber (c :: rest)).map fun (n, r) => (.number n, r)
    else .error (faultPast .valueExpected (c :: rest))

/-- Read any value; the number says how many brackets may be opened inside each other. -/
def readValue : (brackets : Nat) → Scanner Json
  | 0 => readValueWith none
  | n + 1 => readValueWith (some (readValue n))

/-- Read a whole text: only blanks may follow. -/
def readAll {α : Type} (scanner : Scanner α) (text : List Char) : Except Fault α :=
  match scanner text with
  | .error f => .error f
  | .ok (a, rest) =>
    match skipSpace rest with
    | [] => .ok a
    | s => .error (faultPast .trailingCharacters s)

/-- How many brackets may be open inside each other. -/
def bracketLimit : Nat :=
  127

/-- A whole text as a JSON value. -/
def parse (text : String) : Except Fault Json :=
  readAll (readValue bracketLimit) text.toList

end EntityQuery.Json
