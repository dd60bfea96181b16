/-!
# Bytes in base 64

Four digits in base 64 write three bytes; at the end two digits write one byte
and three write two, and equals signs may make them up to four.  Blanks count
for nothing.
-/

namespace FolderGrants

/-- A piece of data. -/
abbrev Bytes := List UInt8

namespace Base64

/-- Why a text is not in base 64. -/
inductive Flaw where
  /-- A byte that is no digit. -/
  | character (b : UInt8)
  /-- One digit alone at the end. -/
  | loneDigit
  /-- Equals signs that do not make up four digits. -/
  | padding
  deriving DecidableEq, Repr

namespace Flaw

/-- How a flaw is named. -/
def name : Flaw → String
  | character b => "InvalidCharacter(" ++ toString b.toNat ++ ")"
  | loneDigit => "PrematureEnd"
  | padding => "InvalidTrailingPadding"

end Flaw

/-- The value of a digit. -/
def digit? (c : Char) : Option Nat :=
  if c.isUpper then some (c.toNat - 'A'.toNat)
  else if c.isLower then some (c.toNat - 'a'.toNat + 26)
  else if c.isDigit then some (c.toNat - '0'.toNat + 52)
  else if c = '+' then some 62
  else if c = '/' then some 63
  else none

/-- Whether a character counts for nothing. -/
def isBlank (c : Char) : Bool := c == ' ' || c == '\t' || c == '\n' || c == '\r'

/-- The digits of a text and, as none, its equals signs. -/
def digits : List Char → Except Flaw (List (Option Nat))
  | [] => .ok []
  | c :: rest =>
    if isBlank c then digits rest
    else if c = '=' then (digits rest).map (none :: ·)
    else
      match digit? c with
      | some d => (digits rest).map (some d :: ·)
      | none => .error (.character ((String.singleton c).toUTF8.toList.headD 0))

/-- So many bytes of a number, the most significant first. -/
def bytesOf (size n : Nat) : Bytes :=
  (List.range size).reverse.map fun i => UInt8.ofNat (n / Nat.pow 256 i % 256)

/-- The bytes that digits write. -/
def ofDigits : List Nat → Bytes
  | a :: b :: c :: d :: rest =>
    bytesOf 3 (((a * 64 + b) * 64 + c) * 64 + d) ++ ofDigits rest
  | [a, b, c] => bytesOf 2 (((a * 64 + b) * 64 + c) / 4)
  | [a, b] => bytesOf 1 ((a * 64 + b) / 16)
  | _ => []

/-- The bytes that a text writes. -/
def decode (cs : List Char) : Except Flaw Bytes := do
  let all ← digits cs
  let ds := (all.takeWhile Option.isSome).filterMap id
  let padding := all.dropWhile Option.isSome
  if padding.isEmpty then
    if ds.length % 4 = 1 then .error .loneDigit else .ok (ofDigits ds)
  else if padding.all Option.isNone && (ds.length + padding.length) % 4 = 0 &&
      padding.length ≤ 2 then
    .ok (ofDigits ds)
  else .error .padding

end Base64

end FolderGrants
