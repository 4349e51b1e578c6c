import EntityQuery.Text.Hex

/-!
# Universally unique identifiers

A 128-bit identifier with its usual text: 32 lowercase hexadecimal digits in
groups of 8, 4, 4, 4 and 12, joined by hyphens.

## Main definitions

- `Uuid` — the identifier
- `Uuid.nil` — the identifier with every bit zero
- `Uuid.toText` — the hyphenated text
- `Uuid.ofText?` — read a hyphenated text, in either case
-/

namespace EntityQuery

/-- A 128-bit identifier. -/
structure Uuid where
  /-- The bits, the first digit of the text being the most significant. -/
  bits : BitVec 128
deriving DecidableEq

namespace Uuid

/-- The identifier with every bit zero. -/
def nil : Uuid :=
  ⟨0⟩

instance : Inhabited Uuid :=
  ⟨nil⟩

/-- The identifier with the given value, taken modulo 2^128. -/
def ofNat (n : Nat) : Uuid :=
  ⟨BitVec.ofNat 128 n⟩

/-- The digit at a position of the text, the last digit being at position 0. -/
def digit (u : Uuid) (position : Nat) : Char :=
  Nat.digitChar (u.bits.toNat / Nat.pow 16 position % 16)

/-- The digits from position `start + count - 1` down to position `start`. -/
def digits (u : Uuid) (start : Nat) : (count : Nat) → List Char
  | 0 => []
  | n + 1 => u.digit (start + n) :: digits u start n

/-- The hyphenated text, as characters. -/
def chars (u : Uuid) : List Char :=
  u.digits 24 8 ++ '-' :: u.digits 20 4 ++ '-' :: u.digits 16 4 ++ '-' :: u.digits 12 4
    ++ '-' :: u.digits 0 12

/-- The hyphenated text. -/
def toText (u : Uuid) : String :=
  String.ofList u.chars

/-- Read a hyphenated text, in either case. -/
def ofText? (s : String) : Option Uuid := do
  let groups := s.splitOn "-"
  guard (groups.map String.length = [8, 4, 4, 4, 12])
  return ofNat (← Text.hexRow? (groups.flatMap String.toList))

end Uuid

end EntityQuery
