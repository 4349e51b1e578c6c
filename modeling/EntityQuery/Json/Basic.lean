import EntityQuery.Dict
import EntityQuery.Number.Layout
import EntityQuery.Text.Quoted

/-!
# JSON values

## Main definitions

- `Json.Number` — an integer or a floating point number
- `Json` — a JSON value; the members of an object are kept in a list
- `Json.shape` — what kind of value it is, in messages
- `Json.compact`, `Json.pretty` — a value as text, on one line or indented

## Design notes

An object that was read keeps its members in key order, the last one of a
repeated key. An object made by hand keeps them as they were given.
-/

namespace EntityQuery

/-- A JSON number. -/
inductive Json.Number
  | integer (value : Int)
  | float (value : Double)
deriving DecidableEq

/-- A JSON value. -/
inductive Json
  | null
  | bool (value : Bool)
  | number (value : Json.Number)
  | string (value : String)
  | array (items : List Json)
  | object (members : List (String × Json))
deriving Inhabited

namespace Json

/-- The text of a number. -/
def Number.chars : Number → List Char
  | .integer i => (Int.repr i).toList
  | .float x => (x.toText .json).toList

/-- The nearest double to a number. -/
def Number.toDouble : Number → Double
  | .integer i => Double.ofInt i
  | .float x => x

/-- The member of an object under a key. -/
def member? (key : String) : Json → Option Json
  | .object members => Entries.find? key members
  | _ => none

/-- What kind of value was found, in messages. -/
inductive Shape
  | null
  | bool (value : Bool)
  | number (value : Number)
  | string (value : String)
  | array
  | object
deriving DecidableEq

/-- The words for what was found. -/
def Shape.words : Shape → String
  | .null => "null"
  | .bool true => "boolean `true`"
  | .bool false => "boolean `false`"
  | .number (.integer i) => "integer `" ++ Int.repr i ++ "`"
  | .number (.float x) => "floating point `" ++ x.toText .json ++ "`"
  | .string s => "string " ++ Text.quoted s
  | .array => "sequence"
  | .object => "map"

/-- What kind of value this is. -/
def shape : Json → Shape
  | .null => .null
  | .bool b => .bool b
  | .number n => .number n
  | .string s => .string s
  | .array _ => .array
  | .object _ => .object

/-- How one character is written inside a string: quotes, backslashes and
  controls are escaped. -/
def escapedChar (c : Char) : List Char :=
  if c = '"' then ['\\', '"']
  else if c = '\\' then ['\\', '\\']
  else if c = '\x08' then ['\\', 'b']
  else if c = '\x0C' then ['\\', 'f']
  else if c = '\n' then ['\\', 'n']
  else if c = '\r' then ['\\', 'r']
  else if c = '\t' then ['\\', 't']
  else if c.toNat < 0x20 then
    ['\\', 'u', '0', '0', Nat.digitChar (c.toNat / 16), Nat.digitChar (c.toNat % 16)]
  else [c]

/-- A string between quotes. -/
def stringChars (s : String) : List Char :=
  '"' :: s.toList.flatMap escapedChar ++ ['"']

mutual

/-- A value on one line, without blanks. -/
def compactChars : Json → List Char
  | .null => ['n', 'u', 'l', 'l']
  | .bool true => ['t', 'r', 'u', 'e']
  | .bool false => ['f', 'a', 'l', 's', 'e']
  | .number n => n.chars
  | .string s => stringChars s
  | .array [] => ['[', ']']
  | .array (item :: rest) => '[' :: compactChars item ++ compactItems rest ++ [']']
  | .object [] => ['{', '}']
  | .object ((key, value) :: rest) =>
    '{' :: stringChars key ++ ':' :: compactChars value ++ compactMembers rest ++ ['}']

/-- Further items of an array, each after a comma. -/
def compactItems : List Json → List Char
  | [] => []
  | item :: rest => ',' :: compactChars item ++ compactItems rest

/-- Further members of an object, each after a comma. -/
def compactMembers : List (String × Json) → List Char
  | [] => []
  | (key, value) :: rest =>
    ',' :: stringChars key ++ ':' :: compactChars value ++ compactMembers rest

end

/-- The start of a line at a depth of nesting. -/
def indentation (depth : Nat) : List Char :=
  '\n' :: List.replicate (2 * depth) ' '

mutual

/-- A value with one item or member on a line, indented by two blanks a level. -/
def prettyChars (depth : Nat) : Json → List Char
  | .array [] => ['[', ']']
  | .array (item :: rest) =>
    '[' :: indentation (depth + 1) ++ prettyChars (depth + 1) item ++ prettyItems (depth + 1) rest
      ++ indentation depth ++ [']']
  | .object [] => ['{', '}']
  | .object ((key, value) :: rest) =>
    '{' :: indentation (depth + 1) ++ stringChars key ++ ':' :: ' ' ::
      prettyChars (depth + 1) value ++ prettyMembers (depth + 1) rest ++ indentation depth ++ ['}']
  | .null => ['n', 'u', 'l', 'l']
  | .bool true => ['t', 'r', 'u', 'e']
  | .bool false => ['f', 'a', 'l', 's', 'e']
  | .number n => n.chars
  | .string s => stringChars s

/-- Further items of an array, each after a comma on a line of its own. -/
def prettyItems (depth : Nat) : List Json → List Char
  | [] => []
  | item :: rest => ',' :: indentation depth ++ prettyChars depth item ++ prettyItems depth rest

/-- Further members of an object, each after a comma on a line of its own. -/
def prettyMembers (depth : Nat) : List (String × Json) → List Char
  | [] => []
  | (key, value) :: rest =>
    ',' :: indentation depth ++ stringChars key ++ ':' :: ' ' :: prettyChars depth value
      ++ prettyMembers depth rest

end

/-- A value on one line, without blanks. -/
def compact (j : Json) : String :=
  String.ofList j.compactChars

/-- A value with one item or member on a line. -/
def pretty (j : Json) : String :=
  String.ofList (j.prettyChars 0)

end Json

end EntityQuery
