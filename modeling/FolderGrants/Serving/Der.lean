import FolderGrants.Serving.Base64

/-!
# Distinguished encoding

Certificates and keys are values with a tag and a length, one within the other.
The length takes one byte below 128, and otherwise the fewest bytes that hold
it, after a byte that says how many these are.
-/

namespace FolderGrants.Der

/-! ### Tags -/

/-- The tag of truth values. -/
def boolean : UInt8 := 0x01

/-- The tag of whole numbers. -/
def integer : UInt8 := 0x02

/-- The tag of pieces of data that count their bits. -/
def bitString : UInt8 := 0x03

/-- The tag of pieces of data. -/
def octetString : UInt8 := 0x04

/-- The tag of nothing. -/
def null : UInt8 := 0x05

/-- The tag of names of algorithms and the like. -/
def identifier : UInt8 := 0x06

/-- The tag of values in order. -/
def sequence : UInt8 := 0x30

/-- The tag of a value that its number tells apart. -/
def context (n : UInt8) : UInt8 := 0xA0 + n

/-! ### Writing -/

/-- The bytes of a length. -/
def length (n : Nat) : Bytes :=
  if n < 128 then [UInt8.ofNat n]
  else
    let size := (List.range 8).countP fun i => Nat.pow 256 i ≤ n
    UInt8.ofNat (128 + size) :: Base64.bytesOf size n

/-- A value. -/
def value (tag : UInt8) (content : Bytes) : Bytes := tag :: (length content.length ++ content)

/-! ### Reading -/

/-- The number that bytes write, the most significant first. -/
def natural (bs : Bytes) : Nat := bs.foldl (fun n b => 256 * n + b.toNat) 0

/-- Reads a length. -/
def length? : Bytes → Option (Nat × Bytes)
  | [] => none
  | b :: rest =>
    if b < 128 then some (b.toNat, rest)
    else
      let size := b.toNat - 128
      let n := natural (rest.take size)
      if size = 0 ∨ 4 < size ∨ rest.length < size ∨ n < 128 ∨ n < Nat.pow 256 (size - 1) then none
      else some (n, rest.drop size)

/-- Reads a value with the tag: its content, and what follows it. -/
def read? (tag : UInt8) : Bytes → Option (Bytes × Bytes)
  | [] => none
  | t :: rest =>
    if t ≠ tag then none
    else
      (length? rest).bind fun (n, rest) =>
        if rest.length < n then none else some (rest.take n, rest.drop n)

/-- The content of a value with the tag that is all there is. -/
def only? (tag : UInt8) (bs : Bytes) : Option Bytes :=
  (read? tag bs).bind fun (content, rest) => if rest.isEmpty then some content else none

/-- Reads a value with the tag if there is one. -/
def optional? (tag : UInt8) (bs : Bytes) : Option (Option Bytes × Bytes) :=
  if bs.head? = some tag then (read? tag bs).map fun (content, rest) => (some content, rest)
  else some (none, bs)

/-- Reads a whole number that is not negative. -/
def natural? (bs : Bytes) : Option (Nat × Bytes) :=
  (read? integer bs).bind fun (content, rest) =>
    match content with
    | [] => none
    | [b] => if b < 128 then some (b.toNat, rest) else none
    | a :: b :: _ => if a < 128 && !(a == 0 && b < 128) then some (natural content, rest) else none

/-- The data of a value that counts its bits, if these fill the bytes. -/
def wholeBytes? (content : Bytes) : Option Bytes :=
  match content with
  | unused :: data => if unused = 0 then some data else none
  | [] => none

end FolderGrants.Der
