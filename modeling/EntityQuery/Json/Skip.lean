import EntityQuery.Json.Read

/-!
# Skipping JSON values

A value that nobody asked for is passed over. Less is checked than when a value
is read: numbers may be out of range, code escapes may be halves of surrogate
pairs, and brackets may be nested to any depth.

## Main definitions

- `Json.skipString`, `Json.skipNumber` — pass over a string, a number
- `Json.skipValue` — pass over any value
-/

namespace EntityQuery.Json

/-- Pass over a string after its opening quote; the flag says whether the last
  character was a backslash, the number how many digits of a code are due. -/
def skipStringFrom : (escaped : Bool) → (due : Nat) → List Char → Except Fault (List Char)
  | _, due + 1, [] => .error (badCode (3 - due) [])
  | _, 0, [] => .error (faultAt .endInString [])
  | _, due + 1, c :: rest =>
    if (Text.hexValue? c).isSome then skipStringFrom false due rest
    else .error (badCode (3 - due) (c :: rest))
  | true, 0, c :: rest =>
    if c = 'u' then skipStringFrom false 4 rest
    else if (escapeLetter? c).isSome then skipStringFrom false 0 rest
    else .error (faultPast .invalidEscape (c :: rest))
  | false, 0, c :: rest =>
    if c = '"' then .ok rest
    else if c = '\\' then skipStringFrom true 0 rest
    else if c.toNat < 0x20 then .error (faultAt .controlCharacter (c :: rest))
    else skipStringFrom false 0 rest

/-- Pass over a string after its opening quote. -/
def skipString (s : List Char) : Except Fault (List Char) :=
  skipStringFrom false 0 s

/-- Pass over the digits of an exponent part after its letter. -/
def skipExponent (s : List Char) : Except Fault (List Char) :=
  let s := match s with
    | '+' :: rest | '-' :: rest => rest
    | _ => s
  match s with
  | c :: rest =>
    if c.isDigit then .ok (rest.dropWhile Char.isDigit) else .error (faultPast .invalidNumber s)
  | [] => .error (faultAt .invalidNumber [])

/-- Pass over an exponent part, if there is one. -/
def skipExponent? (s : List Char) : Except Fault (List Char) :=
  match s with
  | 'e' :: rest | 'E' :: rest => skipExponent rest
  | _ => .ok s

/-- Pass over what follows the integer part of a number. -/
def skipAfterInteger (s : List Char) : Except Fault (List Char) :=
  match s with
  | '.' :: rest =>
    if (rest.takeWhile Char.isDigit).isEmpty then .error (faultPast .invalidNumber rest)
    else skipExponent? (rest.dropWhile Char.isDigit)
  | _ => skipExponent? s

/-- Pass over a number after its sign. -/
def skipMagnitude (s : List Char) : Except Fault (List Char) :=
  match s with
  | [] => .error (faultAt .invalidNumber [])
  | '0' :: rest =>
    match rest with
    | c :: _ =>
      if c.isDigit then .error (faultPast .invalidNumber rest) else skipAfterInteger rest
    | [] => .ok []
  | c :: rest =>
    if c.isDigit then skipAfterInteger (rest.dropWhile Char.isDigit)
    else .error (faultPast .invalidNumber s)

/-- Pass over a number. -/
def skipNumber (s : List Char) : Except Fault (List Char) :=
  match s with
  | '-' :: rest => skipMagnitude rest
  | _ => skipMagnitude s

/-- A bracket that is open. -/
inductive Bracket
  | list
  | object
deriving DecidableEq

/-- The fault of a text that ends within a bracket. -/
def Bracket.endCause : Bracket → Cause
  | .list => .endInList
  | .object => .endInObject

/-- The fault of a text that goes on otherwise after an item or a member. -/
def Bracket.furtherCause : Bracket → Cause
  | .list => .listEndExpected
  | .object => .objectEndExpected

/-- Where skipping stands. -/
inductive SkipPoint
  /-- Before a value. -/
  | value
  /-- After an opening bracket. -/
  | opened
  /-- Before a key. -/
  | key
  /-- After a value. -/
  | after
deriving DecidableEq

/-- Pass over the rest of a value inside the open brackets, the innermost first. -/
def skipFrom : (rounds : Nat) → SkipPoint → List Bracket → List Char → Except Fault (List Char)
  | 0, _, _, _ => .error (faultAt .endInValue [])
  | _ + 1, .after, [], s => .ok s
  | _ + 1, .opened, [], s => .ok s
  | _ + 1, .key, [], s => .ok s
  | n + 1, .value, outer, s =>
    match skipSpace s with
    | [] => .error (faultPast .endInValue [])
    | 'n' :: rest => (scanWord ['u', 'l', 'l'] rest).bind (skipFrom n .after outer)
    | 't' :: rest => (scanWord ['r', 'u', 'e'] rest).bind (skipFrom n .after outer)
    | 'f' :: rest => (scanWord ['a', 'l', 's', 'e'] rest).bind (skipFrom n .after outer)
    | '"' :: rest => (skipString rest).bind (skipFrom n .after outer)
    | '[' :: rest => skipFrom n .opened (.list :: outer) rest
    | '\x7b' :: rest => skipFrom n .opened (.object :: outer) rest
    | c :: rest =>
      if c = '-' || c.isDigit then (skipNumber (c :: rest)).bind (skipFrom n .after outer)
      else .error (faultPast .valueExpected (c :: rest))
  | n + 1, .opened, b :: outer, s =>
    match b, skipSpace s with
    | _, [] => .error (faultPast b.endCause [])
    | .list, ']' :: rest => skipFrom n .after outer rest
    | .object, '\x7d' :: rest => skipFrom n .after outer rest
    | .list, s => skipFrom n .value (b :: outer) s
    | .object, s => skipFrom n .key (b :: outer) s
  | n + 1, .key, b :: outer, s =>
    match skipSpace s with
    | [] => .error (faultPast .endInObject [])
    | '"' :: rest =>
      ((skipString rest).bind passColon).bind (skipFrom n .value (b :: outer))
    | s => .error (faultPast .keyExpected s)
  | n + 1, .after, b :: outer, s =>
    match b, skipSpace s with
    | _, [] => .error (faultPast b.endCause [])
    | .list, ']' :: rest => skipFrom n .after outer rest
    | .object, '\x7d' :: rest => skipFrom n .after outer rest
    | .list, ',' :: rest => skipFrom n .value (b :: outer) rest
    | .object, ',' :: rest => skipFrom n .key (b :: outer) rest
    | _, s => .error (faultPast b.furtherCause s)

/-- Pass over any value. Two rounds for every character of the text suffice. -/
def skipValue (s : List Char) : Except Fault (List Char) :=
  skipFrom (2 * s.length + 2) .value [] s

end EntityQuery.Json
