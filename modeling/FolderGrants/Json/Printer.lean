import FolderGrants.Json.Basic

/-!
# Writing JSON

A value is written on one line and without blanks.  In strings the quote,
the backslash and the control characters are escaped, the common ones by a
letter, the others by four hexadecimal digits.
-/

namespace FolderGrants.Json

/-- What stands in a string for one character. -/
def escapeChar (c : Char) : List Char :=
  if c = '"' then ['\\', '"']
  else if c = '\\' then ['\\', '\\']
  else if c = '\n' then ['\\', 'n']
  else if c = '\r' then ['\\', 'r']
  else if c = '\t' then ['\\', 't']
  else if c = '\x08' then ['\\', 'b']
  else if c = '\x0c' then ['\\', 'f']
  else if c.toNat < 0x20 then
    ['\\', 'u', '0', '0', Nat.digitChar (c.toNat / 16), Nat.digitChar (c.toNat % 16)]
  else [c]

/-- A string between quotes. -/
def printString (s : String) : String :=
  String.ofList ('"' :: (s.toList.flatMap escapeChar ++ ['"']))

mutual

/-- The value on one line. -/
def print : Json → String
  | null => "null"
  | bool b => if b then "true" else "false"
  | int n => toString n
  | decimal d => d.text
  | str s => printString s
  | arr l => "[" ++ printItems l ++ "]"
  | obj l => "\x7b" ++ printMembers l ++ "\x7d"

def printItems : List Json → String
  | [] => ""
  | [j] => j.print
  | j :: rest => j.print ++ "," ++ printItems rest

def printMembers : List (String × Json) → String
  | [] => ""
  | [(name, j)] => printString name ++ ":" ++ j.print
  | (name, j) :: rest => printString name ++ ":" ++ j.print ++ "," ++ printMembers rest

end

end FolderGrants.Json
