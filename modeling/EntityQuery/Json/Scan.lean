import EntityQuery.Json.Fault

/-!
# Scanning words, strings and numbers

The parts of a JSON text that do not nest. Every function takes the rest of a
text and gives what it read and what is left, or a fault.

## Main definitions

- `Json.skipSpace` — skip blanks
- `Json.scanWord` — the rest of `null`, `true` or `false`
- `Json.scanString` — the rest of a string
- `Json.scanNumber` — a number

## Design notes

A number with a fraction or an exponent, or too great for 64 bits, is read as a
natural number of at most 64 bits times a power of ten: digits beyond those are
dropped, and the double is found by one multiplication or division by a power of
ten. It is therefore rounded up to three times and need not be the nearest one.
-/

namespace EntityQuery.Json

/-- Is this one of the four blanks of JSON? -/
def isSpace (c : Char) : Bool :=
  c = ' ' || c = '\n' || c = '\t' || c = '\r'

/-- A text without its leading blanks. -/
def skipSpace (s : List Char) : List Char :=
  s.dropWhile isSpace

/-- Read the characters of a word. -/
def scanWord : (word : List Char) → List Char → Except Fault (List Char)
  | [], s => .ok s
  | _ :: _, [] => .error (faultAt .endInValue [])
  | w :: word, c :: rest =>
    if c = w then scanWord word rest else .error (faultPast .wordExpected (c :: rest))

/-! ## Strings -/

/-- What a string scanner has just seen. -/
inductive StringState
  /-- A character that stands for itself, or the opening quote. -/
  | plain
  | escape
  /-- A code escape with this many digits so far and their value, after the high
    half of a surrogate pair or not. -/
  | code (high : Option Nat) (digits value : Nat)
  /-- The high half of a surrogate pair. -/
  | half (high : Nat)
  /-- The high half of a surrogate pair and a backslash. -/
  | halfEscape (high : Nat)

/-- The character that a backslash and a letter stand for. -/
def escapeLetter? (c : Char) : Option Char :=
  if c = '"' then some '"'
  else if c = '\\' then some '\\'
  else if c = '/' then some '/'
  else if c = 'b' then some '\x08'
  else if c = 'f' then some '\x0C'
  else if c = 'n' then some '\n'
  else if c = 'r' then some '\r'
  else if c = 't' then some '\t'
  else none

/-- Is this the high half of a surrogate pair? -/
def isHighSurrogate (n : Nat) : Bool :=
  0xD800 ≤ n && n ≤ 0xDBFF

/-- Is this the low half of a surrogate pair? -/
def isLowSurrogate (n : Nat) : Bool :=
  0xDC00 ≤ n && n ≤ 0xDFFF

/-- The fault of a code escape that meets something else than a digit: four
  bytes belong to the escape if there are as many. -/
def badCode (digits : Nat) (s : List Char) : Fault :=
  if digits + byteCount s < 4 then ⟨.endInString, 0⟩
  else ⟨.invalidEscape, byteCount s - (4 - digits)⟩

/-- Put a character in front of what was read. -/
def consChar (c : Char) (r : Except Fault (List Char × List Char)) :
    Except Fault (List Char × List Char) :=
  match r with
  | .error f => .error f
  | .ok (cs, rest) => .ok (c :: cs, rest)

/-- Read a string after its opening quote, up to and with the closing one. -/
def scanString : StringState → List Char → Except Fault (List Char × List Char)
  | .code _ digits _, [] => .error (badCode digits [])
  | _, [] => .error (faultAt .endInString [])
  | .plain, c :: rest =>
    if c = '"' then .ok ([], rest)
    else if c = '\\' then scanString .escape rest
    else if c.toNat < 0x20 then .error (faultPast .controlCharacter (c :: rest))
    else consChar c (scanString .plain rest)
  | .escape, c :: rest =>
    if c = 'u' then scanString (.code none 0 0) rest
    else match escapeLetter? c with
      | some d => consChar d (scanString .plain rest)
      | none => .error (faultPast .invalidEscape (c :: rest))
  | .code high digits value, c :: rest =>
    match Text.hexValue? c with
    | none => .error (badCode digits (c :: rest))
    | some v =>
      let n := 16 * value + v
      if digits < 3 then scanString (.code high (digits + 1) n) rest
      else match high with
        | none =>
          if isLowSurrogate n then .error (faultAt .loneSurrogate rest)
          else if isHighSurrogate n then scanString (.half n) rest
          else consChar (Char.ofNat n) (scanString .plain rest)
        | some h =>
          if isLowSurrogate n then
            consChar (Char.ofNat (0x10000 + (h - 0xD800) * 0x400 + (n - 0xDC00)))
              (scanString .plain rest)
          else .error (faultAt .loneSurrogate rest)
  | .half high, c :: rest =>
    if c = '\\' then scanString (.halfEscape high) rest
    else .error (faultPast .unpairedSurrogate (c :: rest))
  | .halfEscape high, c :: rest =>
    if c = 'u' then scanString (.code (some high) 0 0) rest
    else .error (faultPast .unpairedSurrogate (c :: rest))

/-! ## Numbers -/

/-- The greatest natural number of 64 bits. -/
def maxNatural : Nat :=
  Nat.pow 2 64 - 1

/-- The greatest exponent that is followed. -/
def maxExponent : Nat :=
  Nat.pow 2 31 - 1

/-- The value of a decimal digit. -/
def digitValue (c : Char) : Nat :=
  c.toNat - 48

/-- Append digits to a natural number as long as it stays within 64 bits, and
  count the digits that are left. -/
def appendDigits (n : Nat) : List Char → Nat × Nat
  | [] => (n, 0)
  | c :: rest =>
    if 10 * n + digitValue c ≤ maxNatural then appendDigits (10 * n + digitValue c) rest
    else (n, rest.length + 1)

/-- The double nearest to a power of ten. -/
def powerOfTen (n : Nat) : Double :=
  Double.ofNat (Nat.pow 10 n)

/-- A magnitude divided by `10 ^ n`: a number of times by 10^308, unless it has
  become zero by then, and once by the power of ten that is left. -/
def scaleDown (x : Double) : (rounds n : Nat) → Double
  | 0, n => x.div (powerOfTen n)
  | rounds + 1, n =>
    if x.isZero then x else scaleDown (x.div (powerOfTen 308)) rounds (n - 308)

/-- The magnitude `significand * 10 ^ exponent`, if it is finite. -/
def scaled? (significand : Nat) (exponent : Int) : Option Double :=
  let x := Double.ofNat significand
  let n := exponent.natAbs
  if exponent < 0 then some (scaleDown x ((n - 1) / 308) n)
  else if 308 < n then (if x.isZero then some x else none)
  else
    let y := x.mul (powerOfTen n)
    if y.isFinite then some y else none

/-- The floating point number with a sign, a significand and a decimal exponent. -/
def floatOf (negative : Bool) (significand : Nat) (exponent : Int) (rest : List Char) :
    Except Fault (Number × List Char) :=
  match scaled? significand exponent with
  | none => .error (faultAt .numberOutOfRange rest)
  | some x => .ok (.float (if negative then x.neg else x), rest)

/-- Follow the digits of an exponent. The first digit that makes it too great
  ends the reading: the number is then out of range, or zero. -/
def appendExponent (n : Nat) : List Char → Nat ⊕ List Char
  | [] => .inl n
  | c :: rest =>
    if 10 * n + digitValue c ≤ maxExponent then appendExponent (10 * n + digitValue c) rest
    else .inr rest

/-- Read an exponent part after its letter. -/
def scanExponent (negative : Bool) (significand : Nat) (start : Int) (s : List Char) :
    Except Fault (Number × List Char) :=
  let (down, s) := match s with
    | '-' :: rest => (true, rest)
    | '+' :: rest => (false, rest)
    | _ => (false, s)
  match s with
  | [] => .error (faultAt .endInValue [])
  | c :: _ =>
    if !c.isDigit then .error (faultPast .invalidNumber s)
    else
      let digits := s.takeWhile Char.isDigit
      let rest := s.dropWhile Char.isDigit
      match appendExponent 0 digits with
      | .inl n => floatOf negative significand (if down then start - n else start + n) rest
      | .inr unread =>
        if significand ≠ 0 ∧ !down then .error (faultAt .numberOutOfRange (unread ++ rest))
        else .ok (.float (Double.zero negative), rest)

/-- Read a fraction after its point, and an exponent part if there is one. -/
def scanFraction (negative : Bool) (significand : Nat) (start : Int) (s : List Char) :
    Except Fault (Number × List Char) :=
  let digits := s.takeWhile Char.isDigit
  let rest := s.dropWhile Char.isDigit
  if digits.isEmpty then
    .error (if s.isEmpty then faultPast .endInValue s else faultPast .invalidNumber s)
  else
    let (n, dropped) := appendDigits significand digits
    let exponent := start - ((digits.length - dropped : Nat) : Int)
    match rest with
    | 'e' :: after | 'E' :: after => scanExponent negative n exponent after
    | _ => floatOf negative n exponent rest

/-- Read what follows the integer part of a number. -/
def scanAfterInteger (negative : Bool) (significand dropped : Nat) (s : List Char) :
    Except Fault (Number × List Char) :=
  match s with
  | '.' :: rest => scanFraction negative significand dropped rest
  | 'e' :: rest | 'E' :: rest => scanExponent negative significand dropped rest
  | _ =>
    if 0 < dropped then floatOf negative significand dropped s
    else if !negative then .ok (.integer significand, s)
    else if 1 ≤ significand ∧ significand ≤ Nat.pow 2 63 then .ok (.integer (-significand), s)
    else .ok (.float (Double.ofNat significand).neg, s)

/-- Read a number after its sign. -/
def scanMagnitude (negative : Bool) (s : List Char) : Except Fault (Number × List Char) :=
  match s with
  | [] => .error (faultAt .endInValue [])
  | '0' :: rest =>
    match rest with
    | c :: _ =>
      if c.isDigit then .error (faultPast .invalidNumber rest)
      else scanAfterInteger negative 0 0 rest
    | [] => scanAfterInteger negative 0 0 rest
  | c :: _ =>
    if !c.isDigit then .error (faultPast .invalidNumber s)
    else
      let (n, dropped) := appendDigits 0 (s.takeWhile Char.isDigit)
      scanAfterInteger negative n dropped (s.dropWhile Char.isDigit)

/-- Read a number. -/
def scanNumber (s : List Char) : Except Fault (Number × List Char) :=
  match s with
  | '-' :: rest => scanMagnitude true rest
  | _ => scanMagnitude false s

end EntityQuery.Json
