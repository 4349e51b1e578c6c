import EntityQuery.Json.Basic

/-!
# Faults of JSON texts

What can be wrong with a JSON text, or with a JSON value that is read as
something else, and where. A place is counted in bytes, the way editors and logs
of other tools do: a line is one more than the number of line feeds before the
place, a column the number of bytes since the last of them.

## Main definitions

- `Json.Cause` — what is wrong
- `Json.Fault` — what is wrong, and how much of the text is left there
- `Json.Place`, `Json.Fault.place` — the line and the column of a fault
- `Json.Fault.message` — cause and place in words
- `Json.Reader` — a function that reads the beginning of a text

## Design notes

A fault keeps the number of bytes that are left at its place. A reader that
works on the rest of a text therefore needs no position.
-/

namespace EntityQuery.Json

/-- What is wrong with a JSON text or a JSON value. -/
inductive Cause
  | endInValue
  | endInString
  | endInList
  | endInObject
  | valueExpected
  | wordExpected
  | invalidNumber
  | numberOutOfRange
  | controlCharacter
  | invalidEscape
  | loneSurrogate
  | unpairedSurrogate
  | tooDeep
  | listEndExpected
  | objectEndExpected
  | colonExpected
  | keyExpected
  | trailingComma
  | trailingCharacters
  | duplicateField (name : String)
  | missingField (name : String)
  | invalidLength (length : Nat) (expected : String)
  | invalidType (found : Shape) (expected : String)
  | invalidValue (found : Shape) (expected : String)
  | unknownVariant (found : String) (names : List String)
deriving DecidableEq

/-- A name between backquotes. -/
def backquoted (name : String) : String :=
  "`" ++ name ++ "`"

/-- The words for a choice of names. -/
def choiceWords : List String → String
  | [a] => backquoted a
  | [a, b] => backquoted a ++ " or " ++ backquoted b
  | names => "one of " ++ String.intercalate ", " (names.map backquoted)

/-- What is wrong, in words. -/
def Cause.message : Cause → String
  | .endInValue => "EOF while parsing a value"
  | .endInString => "EOF while parsing a string"
  | .endInList => "EOF while parsing a list"
  | .endInObject => "EOF while parsing an object"
  | .valueExpected => "expected value"
  | .wordExpected => "expected ident"
  | .invalidNumber => "invalid number"
  | .numberOutOfRange => "number out of range"
  | .controlCharacter => "control character (\\u0000-\\u001F) found while parsing a string"
  | .invalidEscape => "invalid escape"
  | .loneSurrogate => "lone leading surrogate in hex escape"
  | .unpairedSurrogate => "unexpected end of hex escape"
  | .tooDeep => "recursion limit exceeded"
  | .listEndExpected => "expected `,` or `]`"
  | .objectEndExpected => "expected `,` or `\x7d`"
  | .colonExpected => "expected `:`"
  | .keyExpected => "key must be a string"
  | .trailingComma => "trailing comma"
  | .trailingCharacters => "trailing characters"
  | .duplicateField name => "duplicate field " ++ backquoted name
  | .missingField name => "missing field " ++ backquoted name
  | .invalidLength length expected =>
    "invalid length " ++ Nat.repr length ++ ", expected " ++ expected
  | .invalidType found expected => "invalid type: " ++ found.words ++ ", expected " ++ expected
  | .invalidValue found expected => "invalid value: " ++ found.words ++ ", expected " ++ expected
  | .unknownVariant found names =>
    "unknown variant " ++ backquoted found ++ ", expected " ++ choiceWords names

/-- A field of a record that has no default: its name if it is missing. -/
def required {α : Type} (name : String) : Option α → Except String α
  | some a => .ok a
  | none => .error name

/-- What is wrong, and where. -/
structure Fault where
  cause : Cause
  /-- The number of bytes of the text that are left at the place of the fault. -/
  left : Nat
deriving DecidableEq

/-- The number of bytes of a text. -/
def byteCount : List Char → Nat
  | [] => 0
  | c :: rest => c.utf8Size + byteCount rest

/-- A fault at the beginning of the rest of a text. -/
def faultAt (cause : Cause) (rest : List Char) : Fault :=
  ⟨cause, byteCount rest⟩

/-- A fault at the first byte of the rest of a text, which counts as passed; at
  the end of the text there is none to pass. -/
def faultPast (cause : Cause) (rest : List Char) : Fault :=
  ⟨cause, byteCount rest - 1⟩

/-- A line and a column, in bytes. -/
structure Place where
  /-- The line, counted from 1. -/
  line : Nat
  /-- The number of bytes since the line began. -/
  column : Nat
deriving DecidableEq

/-- The place that is reached by passing a number of bytes of a text. -/
def Place.advance (p : Place) : List Char → (bytes : Nat) → Place
  | [], _ => p
  | c :: rest, bytes =>
    if bytes < c.utf8Size then { p with column := p.column + bytes }
    else if c = '\n' then advance ⟨p.line + 1, 0⟩ rest (bytes - c.utf8Size)
    else advance ⟨p.line, p.column + c.utf8Size⟩ rest (bytes - c.utf8Size)

/-- The place of a fault in a text. -/
def Fault.place (f : Fault) (text : List Char) : Place :=
  Place.advance ⟨1, 0⟩ text (byteCount text - f.left)

/-- Cause and place in words. -/
def Fault.message (f : Fault) (text : List Char) : String :=
  let p := f.place text
  f.cause.message ++ " at line " ++ Nat.repr p.line ++ " column " ++ Nat.repr p.column

/-- A function that reads the beginning of a text and gives what it read and the
  rest. The number says how many brackets may still be opened. -/
abbrev Reader (α : Type) : Type :=
  Nat → List Char → Except Fault (α × List Char)

end EntityQuery.Json
