import EntityQuery.Text.Hex
import EntityQuery.Text.Hidden

/-!
# Texts quoted for a reader

A text inside a message or a description stands between double quotes. Quotes,
backslashes and the usual layout characters are escaped by a backslash and a
letter, characters without an image of their own by their code, and everything
else stands for itself.

## Main definitions

- `Text.quotedChar` — how one character is written between the quotes
- `Text.quoted` — the quoted text
-/

namespace EntityQuery.Text

/-- How one character is written between the quotes. -/
def quotedChar (c : Char) : List Char :=
  if c = '\x00' then ['\\', '0']
  else if c = '\t' then ['\\', 't']
  else if c = '\r' then ['\\', 'r']
  else if c = '\n' then ['\\', 'n']
  else if c = '"' then ['\\', '"']
  else if c = '\\' then ['\\', '\\']
  else if isHidden c then ['\\', 'u', '{'] ++ hexDigits c.toNat ++ ['}']
  else [c]

/-- A text between double quotes, escaped for a reader. -/
def quoted (s : String) : String :=
  String.ofList ('"' :: s.toList.flatMap quotedChar ++ ['"'])

end EntityQuery.Text
