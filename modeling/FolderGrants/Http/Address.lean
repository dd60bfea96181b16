import FolderGrants.Text.Quoted

/-!
# Socket addresses

The address that a server listens on: an address of either family and a port,
as in `0.0.0.0:9443` and `[::1]:9443`.

The four parts of the older family are decimal and have no leading zeros.
The eight groups of the newer one are hexadecimal; `::` stands for groups
that are zero, at least one of them, and the last two groups may be written
as an address of the older family.  A scope may follow a percent sign.

An address is shown in one way only: in lower case, with `::` for the first of
the longest runs of at least two zero groups.
-/

namespace FolderGrants

/-- An address of the older family. -/
structure FourBytes where
  a : Nat
  b : Nat
  c : Nat
  d : Nat
  deriving DecidableEq, Repr, Inhabited

/-- Where a server listens. -/
inductive SocketAddress where
  | four (bytes : FourBytes) (port : Nat)
  /-- Eight groups of sixteen bits. -/
  | six (groups : List Nat) (scope port : Nat)
  deriving DecidableEq, Repr, Inhabited

namespace SocketAddress

/-- What `c` counts in the given base. -/
def digit? (base : Nat) (c : Char) : Option Nat :=
  let value :=
    if '0' ≤ c ∧ c ≤ '9' then some (c.toNat - 48)
    else if 'a' ≤ c ∧ c ≤ 'z' then some (c.toNat - 87)
    else if 'A' ≤ c ∧ c ≤ 'Z' then some (c.toNat - 55)
    else none
  value.filter (· < base)

/-- The digits at the start of a text, and the rest. -/
def digits (base : Nat) : List Char → List Nat × List Char
  | [] => ([], [])
  | c :: rest =>
    match digit? base c with
    | some n => (n :: (digits base rest).1, (digits base rest).2)
    | none => ([], c :: rest)

/-- How a number is written. -/
structure NumberForm where
  base : Nat
  /-- The largest number of digits. -/
  width : Option Nat
  largest : Nat
  leadingZero : Bool

/-- One part of an address of the older family. -/
def byteForm : NumberForm := ⟨10, some 3, 255, false⟩

/-- One group of an address of the newer family. -/
def groupForm : NumberForm := ⟨16, some 4, 65535, true⟩

def portForm : NumberForm := ⟨10, none, 65535, true⟩

def scopeForm : NumberForm := ⟨10, none, 4294967295, true⟩

/-- Reads all digits at the start of a text as one number. -/
def readNumber (form : NumberForm) (cs : List Char) : Option (Nat × List Char) :=
  let (ds, rest) := digits form.base cs
  let value := ds.foldl (fun n d => n * form.base + d) 0
  if ds = [] ∨ form.width.any (· < ds.length) ∨ form.largest < value ∨
      (!form.leadingZero ∧ 1 < ds.length ∧ ds.head? = some 0) then none
  else some (value, rest)

/-- Reads one character. -/
def readChar (c : Char) : List Char → Option (List Char)
  | d :: rest => if c = d then some rest else none
  | [] => none

/-- Reads an address of the older family. -/
def readFour (cs : List Char) : Option (FourBytes × List Char) := do
  let (a, cs) ← readNumber byteForm cs
  let (b, cs) ← readNumber byteForm (← readChar '.' cs)
  let (c, cs) ← readNumber byteForm (← readChar '.' cs)
  let (d, cs) ← readNumber byteForm (← readChar '.' cs)
  return (⟨a, b, c, d⟩, cs)

/-- Reads a colon, save before the first group. -/
def readColon (first : Bool) (cs : List Char) : Option (List Char) :=
  if first then some cs else readChar ':' cs

/-- Groups that were read, whether they ended in an address of the older
family, and the rest. -/
structure Groups where
  groups : List Nat
  endsInFour : Bool
  rest : List Char

/-- Reads as many groups with colons between them as there are, up to a
limit. -/
def readGroups : (limit : Nat) → (first : Bool) → List Char → Groups
  | 0, _, cs => ⟨[], false, cs⟩
  | limit + 1, first, cs =>
    match if limit = 0 then none else readColon first cs >>= readFour with
    | some (q, rest) => ⟨[q.a * 256 + q.b, q.c * 256 + q.d], true, rest⟩
    | none =>
      match readColon first cs >>= readNumber groupForm with
      | some (g, rest) =>
        let more := readGroups limit false rest
        { more with groups := g :: more.groups }
      | none => ⟨[], false, cs⟩

/-- Reads an address of the newer family. -/
def readSix (cs : List Char) : Option (List Nat × List Char) := do
  let front := readGroups 8 true cs
  let n := front.groups.length
  if n = 8 then return (front.groups, front.rest)
  guard !front.endsInFour
  let back := readGroups (7 - n) true (← readChar ':' (← readChar ':' front.rest))
  let zeros := List.replicate (8 - n - back.groups.length) 0
  return (front.groups ++ zeros ++ back.groups, back.rest)

/-- Reads a colon and a port that end the text. -/
def readPort (cs : List Char) : Option Nat := do
  let (port, rest) ← readNumber portForm (← readChar ':' cs)
  guard rest.isEmpty
  return port

/-- Reads an address of the newer family in brackets, and a port. -/
def readBracketed (cs : List Char) : Option SocketAddress := do
  let (groups, cs) ← readSix (← readChar '[' cs)
  let (scope, cs) ←
    match readChar '%' cs with
    | some cs => readNumber scopeForm cs
    | none => some (0, cs)
  return six groups scope (← readPort (← readChar ']' cs))

/-- The socket address that a text is. -/
def parse? (s : String) : Option SocketAddress :=
  match readFour s.toList with
  | some (bytes, rest) => (readPort rest).map (four bytes)
  | none => readBracketed s.toList

/-- Groups with colons between them. -/
def colonText (groups : List Nat) : String := ":".intercalate (groups.map Text.hex)

/-- The length of the run of zeros at the start. -/
def zeroRun (groups : List Nat) : Nat := (groups.takeWhile (· = 0)).length

/-- The start and the length of the first longest run of zeros; `i` groups
stand before the list. -/
def longestZeroRun (i : Nat) : List Nat → Nat × Nat
  | [] => (i, 0)
  | g :: rest =>
    let here := zeroRun (g :: rest)
    let later := longestZeroRun (i + 1) rest
    if later.2 ≤ here then (i, here) else later

/-- How an address of the older family is shown. -/
def fourText (q : FourBytes) : String :=
  ".".intercalate ([q.a, q.b, q.c, q.d].map fun n => toString n)

/-- How an address of the newer family is shown. -/
def sixText (groups : List Nat) : String :=
  match groups with
  | [0, 0, 0, 0, 0, 65535, g, h] => "::ffff:" ++ fourText ⟨g / 256, g % 256, h / 256, h % 256⟩
  | _ =>
    let (start, length) := longestZeroRun 0 groups
    if 1 < length then
      colonText (groups.take start) ++ "::" ++ colonText (groups.drop (start + length))
    else colonText groups

/-- How a socket address is shown. -/
def text : SocketAddress → String
  | four q port => fourText q ++ ":" ++ toString port
  | six groups scope port =>
    "[" ++ sixText groups ++ (if scope = 0 then "" else "%" ++ toString scope) ++ "]:" ++
      toString port

end SocketAddress

end FolderGrants
