import FolderGrants.Json.Basic

/-!
# Writing YAML

A value as a YAML document in block style: a member or an item a line, deeper
ones indented, the items of a list in line with its name.  Empty lists and
objects stay on the line.  A string is written plainly where it reads back as
the same string, and between single quotes elsewhere.
-/

namespace FolderGrants.Json.Yaml

/-- The words that do not read back as strings. -/
def reserved : List String :=
  ["", "~", "null", "Null", "NULL", "true", "True", "TRUE", "false", "False", "FALSE"]

/-- The characters with which a plain string does not begin. -/
def indicators : List Char :=
  [',', '[', ']', '\x7b', '\x7d', '#', '&', '*', '!', '|', '>', '\'', '"', '%', '@', '\x60']

/-- Whether a text could be read as a number. -/
def looksNumeric (cs : List Char) : Bool :=
  cs.any Char.isDigit && cs.all fun c => c.isDigit || "+-._exoabcdfEABCDF".toList.contains c

/-- Whether a colon before a blank or the end, or a hash after a blank, ends a
plain text early. -/
def breaksOff : List Char → Bool
  | [] => false
  | [c] => c = ':'
  | c :: d :: rest => (c = ':' && d = ' ') || (c = ' ' && d = '#') || breaksOff (d :: rest)

/-- Whether a string can be written plainly. -/
def isPlain (s : String) : Bool :=
  let cs := s.toList
  !reserved.contains s && !looksNumeric cs && !breaksOff cs &&
    cs.all (fun c => 0x20 ≤ c.toNat) &&
    !cs.head?.any (fun c => indicators.contains c || c = ' ' || c = '?' || c = '-') &&
    cs.getLast? != some ' '

/-- A string, between quotes where it needs them. -/
def string (s : String) : String :=
  if isPlain s then s
  else
    let char (c : Char) : List Char := if c = '\'' then ['\'', '\''] else [c]
    String.ofList ('\'' :: s.toList.flatMap char ++ ['\''])

/-- A value that stays on its line. -/
def inline : Json → String
  | null => "null"
  | bool b => if b then "true" else "false"
  | int n => toString n
  | decimal d => d.text
  | str s => string s
  | arr _ => "[]"
  | obj _ => "\x7b\x7d"

/-- Puts lines under a member's name or behind an item's dash. -/
def indent (lines : List String) : List String := lines.map ("  " ++ ·)

/-- Puts a dash before the first line. -/
def dashed : List String → List String
  | [] => []
  | line :: rest => ("- " ++ line) :: indent rest

mutual

/-- The lines of a value. -/
def lines : Json → List String
  | arr (item :: rest) => itemLines (item :: rest)
  | obj (member :: rest) => memberLines (member :: rest)
  | j => [inline j]

def itemLines : List Json → List String
  | [] => []
  | item :: rest => dashed (lines item) ++ itemLines rest

def memberLines : List (String × Json) → List String
  | [] => []
  | (name, j) :: rest =>
    (match j with
      | arr (item :: more) => (string name ++ ":") :: lines (arr (item :: more))
      | obj (member :: more) => (string name ++ ":") :: indent (lines (obj (member :: more)))
      | _ => [string name ++ ": " ++ inline j]) ++ memberLines rest

end

end FolderGrants.Json.Yaml
