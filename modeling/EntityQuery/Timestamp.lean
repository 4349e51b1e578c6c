import EntityQuery.Text.Blank

/-!
# Timestamps in text form

A text stands for a timestamp in one of two forms. The offset form is
`YYYY-MM-DDTHH:MM:SS` with an optional fraction and an offset from universal
time, every field of fixed width. The local form has no offset and is more
lenient: a year of one to four digits or of any length after a sign, other
fields of one or two digits, and white space before every number.

## Main definitions

- `Timestamp` — the fields that a text denotes
- `Timestamp.IsReal` — the fields name an instant of the calendar and the clock
- `Timestamp.ofOffsetForm?`, `Timestamp.ofLocalForm?` — the two readers
- `Timestamp.ofText?` — a text in either form
-/

namespace EntityQuery

/-- The fields of a timestamp; a fraction of a second is not kept. -/
structure Timestamp where
  /-- The year of the proleptic Gregorian calendar; year 0 precedes year 1. -/
  year : Int
  /-- The month, from 1 on. -/
  month : Nat
  /-- The day of the month, from 1 on. -/
  day : Nat
  hour : Nat
  minute : Nat
  /-- The second of the minute; 60 is a leap second. -/
  second : Nat
  /-- The hours and minutes of the offset from universal time, without its sign. -/
  offset : Option (Nat × Nat)
deriving DecidableEq

namespace Timestamp

/-- Is this a leap year of the Gregorian calendar? -/
def isLeapYear (year : Int) : Bool :=
  year % 4 == 0 && (year % 100 != 0 || year % 400 == 0)

/-- The number of days of a month; no month other than 1 to 12 has any. -/
def daysInMonth (year : Int) (month : Nat) : Nat :=
  if month = 2 then (if isLeapYear year then 29 else 28)
  else if month ∈ [4, 6, 9, 11] then 30
  else if month ∈ [1, 3, 5, 7, 8, 10, 12] then 31
  else 0

/-- The fields name a day of the calendar, a time of the clock, and an offset of
  less than a day. -/
structure IsReal (t : Timestamp) : Prop where
  /-- Days are counted from 1. -/
  day_pos : 1 ≤ t.day
  /-- The month has the day. -/
  day_le : t.day ≤ daysInMonth t.year t.month
  /-- The last hour is 23. -/
  hour_le : t.hour ≤ 23
  /-- The last minute is 59. -/
  minute_le : t.minute ≤ 59
  /-- The last second is a leap second. -/
  second_le : t.second ≤ 60
  /-- An offset is at most 23 hours and 59 minutes. -/
  offset_le : ∀ o ∈ t.offset, o.1 ≤ 23 ∧ o.2 ≤ 59

/-- Are the fields within their ranges? -/
def inRange (t : Timestamp) : Bool :=
  1 ≤ t.day && t.day ≤ daysInMonth t.year t.month && t.hour ≤ 23 && t.minute ≤ 59
    && t.second ≤ 60 && t.offset.all fun o => o.1 ≤ 23 && o.2 ≤ 59

/-- The range check decides whether the fields are real. -/
theorem inRange_iff {t : Timestamp} : t.inRange = true ↔ t.IsReal := by
  constructor
  · intro h
    simp only [inRange, Bool.and_eq_true, decide_eq_true_eq, Option.all_eq_true] at h
    obtain ⟨⟨⟨⟨⟨h1, h2⟩, h3⟩, h4⟩, h5⟩, h6⟩ := h
    exact ⟨h1, h2, h3, h4, h5, h6⟩
  · intro h
    simp only [inRange, Bool.and_eq_true, decide_eq_true_eq, Option.all_eq_true]
    exact ⟨⟨⟨⟨⟨h.day_pos, h.day_le⟩, h.hour_le⟩, h.minute_le⟩, h.second_le⟩, h.offset_le⟩

/-- The value of a row of decimal digits. -/
def rowValue (digits : List Char) : Nat :=
  Nat.ofDigitChars 10 digits 0

/-- Read a number of at least one and at most `limit` digits, taking as many as
  there are. -/
def number? (limit : Nat) (s : List Char) : Option (Nat × List Char) :=
  let digits := (s.take limit).takeWhile Char.isDigit
  if digits.isEmpty then none else some (rowValue digits, s.drop digits.length)

/-- Read a number of exactly this many digits. -/
def fixed? (width : Nat) (s : List Char) : Option (Nat × List Char) :=
  let digits := (s.take width).takeWhile Char.isDigit
  if digits.length = width then some (rowValue digits, s.drop width) else none

/-- Read one of these characters. -/
def oneOf? (choices : List Char) : List Char → Option (List Char)
  | [] => none
  | c :: rest => if c ∈ choices then some rest else none

/-- Skip a fraction of a second: nothing, or a point and at least one digit. -/
def fraction? : List Char → Option (List Char)
  | '.' :: rest =>
    if (rest.takeWhile Char.isDigit).isEmpty then none else some (rest.dropWhile Char.isDigit)
  | s => some s

/-- Read the offset at the end of a text: `Z`, or a sign, two digits of hours, a
  colon and two digits of minutes. The sign may also be U+2212. -/
def offset? : List Char → Option (Nat × Nat)
  | ['Z'] => some (0, 0)
  | ['z'] => some (0, 0)
  | s => do
    let s ← oneOf? ['+', '-', '\u2212'] s
    let (hours, s) ← fixed? 2 s
    let s ← oneOf? [':'] s
    let (minutes, s) ← fixed? 2 s
    guard (s = [])
    return (hours, minutes)

/-- Read a text in the offset form. -/
def ofOffsetForm? (s : List Char) : Option Timestamp := do
  let (year, s) ← fixed? 4 s
  let s ← oneOf? ['-'] s
  let (month, s) ← fixed? 2 s
  let s ← oneOf? ['-'] s
  let (day, s) ← fixed? 2 s
  let s ← oneOf? ['T', 't', ' '] s
  let (hour, s) ← fixed? 2 s
  let s ← oneOf? [':'] s
  let (minute, s) ← fixed? 2 s
  let s ← oneOf? [':'] s
  let (second, s) ← fixed? 2 s
  let s ← fraction? s
  let offset ← offset? s
  let t : Timestamp := ⟨year, month, day, hour, minute, second, some offset⟩
  guard t.inRange
  return t

/-- Read a year in the local form: one to four digits, or a sign and digits. -/
def localYear? (s : List Char) : Option (Int × List Char) :=
  match Text.skipBlank s with
  | '-' :: rest => (number? rest.length rest).map fun (n, r) => (-(n : Int), r)
  | '+' :: rest => (number? rest.length rest).map fun (n, r) => ((n : Int), r)
  | rest => (number? 4 rest).map fun (n, r) => ((n : Int), r)

/-- Read a field of one or two digits in the local form, after white space. -/
def localField? (s : List Char) : Option (Nat × List Char) :=
  number? 2 (Text.skipBlank s)

/-- The years that the local form can denote. -/
def isLocalYear (year : Int) : Bool :=
  -262143 ≤ year && year ≤ 262142

/-- Read a text in the local form. -/
def ofLocalForm? (s : List Char) : Option Timestamp := do
  let (year, s) ← localYear? s
  let s ← oneOf? ['-'] s
  let (month, s) ← localField? s
  let s ← oneOf? ['-'] s
  let (day, s) ← localField? s
  let s ← oneOf? ['T'] s
  let (hour, s) ← localField? s
  let s ← oneOf? [':'] s
  let (minute, s) ← localField? s
  let s ← oneOf? [':'] s
  let (second, s) ← localField? s
  let s ← fraction? s
  guard (s = [])
  let t : Timestamp := ⟨year, month, day, hour, minute, second, none⟩
  guard (isLocalYear year && t.inRange)
  return t

/-- Read a text in either form. -/
def ofText? (s : String) : Option Timestamp :=
  ofOffsetForm? s.toList <|> ofLocalForm? s.toList

end Timestamp

end EntityQuery
