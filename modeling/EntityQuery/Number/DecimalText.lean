import EntityQuery.Text.Split

/-!
# Decimal numbers as texts

A decimal number in text form is an optional minus sign, one or more ASCII
digits, and optionally a point followed by one or more ASCII digits.

## Main definitions

- `DecimalText.isNumber` — is this text a decimal number
-/

namespace EntityQuery.DecimalText

/-- Is this a row of one or more ASCII digits? -/
def isDigitRow (s : List Char) : Bool :=
  !s.isEmpty && s.all Char.isDigit

/-- A text without its leading minus sign, if it has one. -/
def dropSign : List Char → List Char
  | '-' :: rest => rest
  | s => s

/-- Is this text a decimal number? -/
def isNumber (s : String) : Bool :=
  match Text.splitOnce '.' (dropSign s.toList) with
  | (whole, none) => isDigitRow whole
  | (whole, some places) => isDigitRow whole && isDigitRow places

end EntityQuery.DecimalText
