import EntityQuery.Number.Shortest

/-!
# How numbers are written

The digits of a double are the fewest that read back; what remains to be chosen
is the layout: when an exponent is written and how, and whether a whole number
shows a decimal place.

## Main definitions

- `Layout` — the choices of a number format
- `Double.toText` — a double in a layout
- `Layout.plain` — never an exponent, no superfluous decimal place
- `Layout.described` — always a decimal point or an exponent, as in descriptions
- `Layout.json` — the number format of JSON documents
-/

namespace EntityQuery

/-- The choices of a number format. -/
structure Layout where
  /-- The decimal exponents of the first digit that are written without an
    exponent part, from the first to the second; all of them if absent. -/
  positional : Option (Int × Int)
  /-- Is a whole number written with one decimal place? -/
  wholeWithPlace : Bool
  /-- Does a positive exponent show its sign? -/
  exponentPlus : Bool
  /-- Which of two equally near decimals is written. -/
  tie : Tie

namespace Layout

/-- Never an exponent, and no decimal place for whole numbers. -/
def plain : Layout :=
  { positional := none, wholeWithPlace := false, exponentPlus := false, tie := .up }

/-- An exponent from 10^16 on and below 10^-4, and a decimal place for whole numbers. -/
def described : Layout :=
  { positional := some (-4, 15), wholeWithPlace := true, exponentPlus := false, tie := .up }

/-- An exponent with its sign from 10^16 on and below 10^-5, and a decimal place
  for whole numbers. -/
def json : Layout :=
  { positional := some (-5, 15), wholeWithPlace := true, exponentPlus := true, tie := .even }

/-- Is a number whose first digit has this decimal exponent written without an
  exponent part? -/
def isPositional (layout : Layout) (leading : Int) : Bool :=
  match layout.positional with
  | none => true
  | some (first, last) => first ≤ leading && leading ≤ last

/-- Digits with a decimal point at its place, the last digit having the given
  decimal exponent. -/
def positionalChars (layout : Layout) (digits : List Char) (last : Int) : List Char :=
  if 0 ≤ last then
    digits ++ List.replicate last.toNat '0' ++ (if layout.wholeWithPlace then ['.', '0'] else [])
  else
    let places := (-last).toNat
    if places < digits.length then
      digits.take (digits.length - places) ++ '.' :: digits.drop (digits.length - places)
    else '0' :: '.' :: List.replicate (places - digits.length) '0' ++ digits

/-- Digits with a decimal point after the first one, and an exponent part. -/
def exponentialChars (layout : Layout) (digits : List Char) (leading : Int) : List Char :=
  let sign := if leading < 0 then ['-'] else if layout.exponentPlus then ['+'] else []
  digits.take 1 ++ (if digits.length ≤ 1 then [] else '.' :: digits.drop 1)
    ++ 'e' :: sign ++ Nat.toDigits 10 leading.natAbs

/-- A decimal in a layout. -/
def decimalChars (layout : Layout) (d : Decimal) : List Char :=
  let digits := Nat.toDigits 10 d.coefficient
  let leading := d.exponent + (digits.length : Int) - 1
  if layout.isPositional leading then layout.positionalChars digits d.exponent
  else layout.exponentialChars digits leading

end Layout

namespace Double

/-- The magnitude of a double in a layout. -/
def magnitudeChars (layout : Layout) (x : Double) : List Char :=
  if x.isZero then layout.positionalChars ['0'] 0
  else layout.decimalChars (x.shortest layout.tie)

/-- A double in a layout. -/
def toText (layout : Layout) (x : Double) : String :=
  if x.isNaN then "NaN"
  else
    let magnitude := if x.isFinite then x.magnitudeChars layout else ['i', 'n', 'f']
    String.ofList (if x.isNegative then '-' :: magnitude else magnitude)

end Double

end EntityQuery
