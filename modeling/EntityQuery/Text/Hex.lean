/-!
# Hexadecimal digits

## Main definitions

- `Text.hexDigits` — a number in lowercase hexadecimal
- `Text.hexValue?` — the value of a digit, in either case
- `Text.hexRow?` — the value of a row of digits
-/

namespace EntityQuery.Text

/-- A number in lowercase hexadecimal, without leading zeros. -/
def hexDigits (n : Nat) : List Char :=
  Nat.toDigits 16 n

/-- The value of a hexadecimal digit, in either case. -/
def hexValue? (c : Char) : Option Nat :=
  if '0' ≤ c ∧ c ≤ '9' then some (c.toNat - 48)
  else if 'a' ≤ c ∧ c ≤ 'f' then some (c.toNat - 87)
  else if 'A' ≤ c ∧ c ≤ 'F' then some (c.toNat - 55)
  else none

/-- The value of a row of hexadecimal digits, the most significant first. -/
def hexRow? (digits : List Char) : Option Nat :=
  digits.foldl (fun acc c => do return 16 * (← acc) + (← hexValue? c)) (some 0)

end EntityQuery.Text
