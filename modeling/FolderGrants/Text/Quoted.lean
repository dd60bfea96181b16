import FolderGrants.Text.Invisible

/-!
# Quoted texts

Messages show a foreign text between double quotes: quotes and backslashes
are escaped, the common controls have letters of their own, and every other
invisible character is written by its code point in lower-case hexadecimal.
-/

namespace FolderGrants.Text

/-- The digits of `n` in base sixteen, lower case, without leading zeros. -/
def hex (n : Nat) : String := String.ofList (Nat.toDigits 16 n)

/-- What stands between the quotes for one character. -/
def quoteChar (c : Char) : List Char :=
  if c = '"' then ['\\', '"']
  else if c = '\\' then ['\\', '\\']
  else if c = '\n' then ['\\', 'n']
  else if c = '\r' then ['\\', 'r']
  else if c = '\t' then ['\\', 't']
  else if c = '\x00' then ['\\', '0']
  else if isInvisible c then "\\u\x7b".toList ++ (hex c.toNat).toList ++ ['}']
  else [c]

/-- The text between double quotes. -/
def quoted (s : String) : String :=
  String.ofList ('"' :: (s.toList.flatMap quoteChar ++ ['"']))

/-- A path between double quotes; its single quotes are escaped too. -/
def quotedPath (s : String) : String :=
  let char (c : Char) : List Char := if c = '\x27' then ['\\', c] else quoteChar c
  String.ofList ('"' :: (s.toList.flatMap char ++ ['"']))

end FolderGrants.Text
