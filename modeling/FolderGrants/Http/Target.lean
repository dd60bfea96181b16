/-!
# What a request is addressed to

The address of a request is a text: a path, perhaps a question mark and a
query, perhaps a hash and a fragment, which is never sent.  Nothing is done to
a name before it becomes part of an address, so one with a question mark or a
hash ends the path early.

A query holds names and values with `=` between them and `&` after them.  A
plus sign stands for a blank, and a percent sign with two hexadecimal digits
for a byte.
-/

namespace FolderGrants.Http

/-- Where a request goes. -/
structure Target where
  path : String
  /-- The names and values of the query, in order. -/
  query : List (String × String) := []
  deriving DecidableEq, Repr, Inhabited

/-- Whether a query may contain `c`. -/
def isQueryChar (c : Char) : Bool :=
  let n := c.toNat
  n = 0x21 || (0x24 ≤ n && n ≤ 0x3B) || n = 0x3D || (0x3F ≤ n && n ≤ 0x7E) || 0x80 ≤ n

/-- Whether a path may contain `c`: what a query may, save the question mark
that ends it and the back quote, and the double quote. -/
def isPathChar (c : Char) : Bool := c = '"' || (isQueryChar c && c ≠ '?' && c ≠ '\x60')

namespace Target

/-- What a byte counts as a hexadecimal digit. -/
def digit? (b : UInt8) : Option UInt8 :=
  if 48 ≤ b ∧ b ≤ 57 then some (b - 48)
  else if 97 ≤ b ∧ b ≤ 102 then some (b - 87)
  else if 65 ≤ b ∧ b ≤ 70 then some (b - 55)
  else none

/-- The byte of two hexadecimal digits, a question mark for anything else. -/
def byte (high low : UInt8) : UInt8 :=
  match digit? high, digit? low with
  | some h, some l => h * 16 + l
  | _, _ => 63

/-- The bytes that a part of a query stands for. -/
def decodeBytes : List UInt8 → List UInt8
  | [] => []
  | b :: rest =>
    if b = 43 then 32 :: decodeBytes rest
    else if b = 37 then
      match rest with
      | h :: l :: rest => byte h l :: decodeBytes rest
      | _ => [63]
    else b :: decodeBytes rest

/-- The text of bytes; a byte beyond ASCII shows as the replacement character
if not all bytes belong to characters. -/
def ofBytes (bytes : List UInt8) : String :=
  match String.fromUTF8? ⟨bytes.toArray⟩ with
  | some s => s
  | none => String.ofList (bytes.map fun b => if b < 128 then Char.ofNat b.toNat else '\ufffd')

/-- The text that a part of a query stands for. -/
def decodePart (cs : List Char) : String :=
  ofBytes (decodeBytes (String.ofList cs).toUTF8.toList)

/-- A name and its value, which is empty where there is no `=`. -/
def decodePair (cs : List Char) : String × String :=
  let name := cs.takeWhile (· ≠ '=')
  (decodePart name, decodePart (cs.drop (name.length + 1)))

/-- The names and values of a query. -/
def decodeQuery (cs : List Char) : List (String × String) :=
  ((cs.splitOn '&').filter (!·.isEmpty)).map decodePair

/-- Takes an address apart to which the given names and values are appended;
none if a character is not allowed where it stands. -/
def ofText? (s : String) (appended : List (String × String)) : Option Target :=
  let sent := s.toList.takeWhile (· ≠ '#')
  let path := sent.takeWhile (· ≠ '?')
  let query := sent.drop (path.length + 1)
  let whole := sent.length = s.toList.length
  if path.all isPathChar && query.all isQueryChar then
    some ⟨String.ofList path, decodeQuery query ++ (if whole then appended else [])⟩
  else none

/-- Whether a scheme may contain `c`. -/
def isSchemeChar (c : Char) : Bool := c.isAlphanum || c = '+' || c = '-' || c = '.'

/-- The path of an address that may begin with a scheme and a host.  Without a
scheme and without a slash in front, an address is a host alone. -/
def pathOf (s : String) : String :=
  let cs := s.toList
  let ends (c : Char) := c = '?' || c = '#'
  if cs.head? = some '/' then String.ofList (cs.takeWhile (!ends ·))
  else
    let scheme := cs.takeWhile isSchemeChar
    match cs.drop scheme.length with
    | ':' :: '/' :: '/' :: rest =>
      let host := rest.takeWhile fun c => c ≠ '/' && !ends c
      if scheme.isEmpty || host.isEmpty then ""
      else
        let path := (rest.drop host.length).takeWhile (!ends ·)
        if path.isEmpty then "/" else String.ofList path
    | _ => ""

end Target

end FolderGrants.Http
