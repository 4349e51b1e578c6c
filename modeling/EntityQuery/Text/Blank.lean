/-!
# Blank text

The white space of Unicode (the property `White_Space`) and texts that consist
of nothing else.

## Main definitions

- `Text.isBlankChar` — is this character white space
- `Text.isBlank` — does this text hold white space only
- `Text.skipBlank` — a text without its leading white space
-/

namespace EntityQuery.Text

/-- Is this character white space? -/
def isBlankChar (c : Char) : Bool :=
  let n := c.toNat
  (0x9 ≤ n && n ≤ 0xD) || n == 0x20 || n == 0x85 || n == 0xA0 || n == 0x1680
    || (0x2000 ≤ n && n ≤ 0x200A) || n == 0x2028 || n == 0x2029 || n == 0x202F
    || n == 0x205F || n == 0x3000

/-- Does this text hold white space only? The empty text does. -/
def isBlank (s : String) : Bool :=
  s.toList.all isBlankChar

/-- A text without its leading white space. -/
def skipBlank (s : List Char) : List Char :=
  s.dropWhile isBlankChar

end EntityQuery.Text
