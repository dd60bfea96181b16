import FolderGrants.Json.Stop

/-!
# Reading strings, words and numbers

The parts of JSON that have no parts.  Each reader takes what it reads off
the front of the characters.

Of a number the digits that fit into 64 bits count, and the power of ten that
they stand at.  Numbers without fraction and exponent that fit into 64 bits
are integers; all others are held as decimals, and so is minus zero.
-/

namespace FolderGrants.Json

def isSpace (c : Char) : Bool := c = ' ' || c = '\n' || c = '\t' || c = '\r'

def skipSpace (cs : List Char) : List Char := cs.dropWhile isSpace

/-! ### Strings -/

def hexValue? (c : Char) : Option Nat :=
  if c.isDigit then some (c.toNat - '0'.toNat)
  else if 'a' ≤ c ∧ c ≤ 'f' then some (c.toNat - 'a'.toNat + 10)
  else if 'A' ≤ c ∧ c ≤ 'F' then some (c.toNat - 'A'.toNat + 10)
  else none

/-- The number of four hexadecimal digits. -/
def unit? (a b c d : Char) : Option Nat := do
  return (← hexValue? a) * 4096 + (← hexValue? b) * 256 + (← hexValue? c) * 16 + (← hexValue? d)

def isHighHalf (n : Nat) : Bool := 0xD800 ≤ n && n < 0xDC00

def isLowHalf (n : Nat) : Bool := 0xDC00 ≤ n && n < 0xE000

/-- The character of two halves of a pair. -/
def paired (high low : Nat) : Char :=
  Char.ofNat (0x10000 + (high - 0xD800) * 0x400 + (low - 0xDC00))

/-- The character of an escape by one letter. -/
def escaped? (c : Char) : Option Char :=
  if c = '"' ∨ c = '\\' ∨ c = '/' then some c
  else if c = 'n' then some '\n'
  else if c = 't' then some '\t'
  else if c = 'r' then some '\r'
  else if c = 'b' then some '\x08'
  else if c = 'f' then some '\x0c'
  else none

/-- The stop at characters that do not begin with four hexadecimal digits:
four bytes are read before that is told. -/
def stopInHex (cs : List Char) : Stop :=
  if size cs < 4 then .before .endsInString [] else ⟨.flaw .badEscape, size cs - 4⟩

/-- The stop at characters that do not escape the second half of a pair. -/
def stopInPair : List Char → Stop
  | '\\' :: 'u' :: cs => stopInHex cs
  | '\\' :: cs => .next .endsInString .brokenPair cs
  | cs => .next .endsInString .brokenPair cs

/-- A string from after its opening quote; `done` holds the characters read,
the last one first. -/
def readString (done : List Char) : List Char → Except Stop (String × List Char)
  | [] => .error (.before .endsInString [])
  | '"' :: rest => .ok (String.ofList done.reverse, rest)
  | '\\' :: 'u' :: a :: b :: c :: d :: rest =>
    match unit? a b c d with
    | none => .error (stopInHex (a :: b :: c :: d :: rest))
    | some n =>
      if isLowHalf n then .error (.before .loneHalf rest)
      else if isHighHalf n then
        match rest with
        | '\\' :: 'u' :: a :: b :: c :: d :: rest =>
          match unit? a b c d with
          | none => .error (stopInHex (a :: b :: c :: d :: rest))
          | some m =>
            if isLowHalf m then readString (paired n m :: done) rest
            else .error (.before .loneHalf rest)
        | rest => .error (stopInPair rest)
      else readString (Char.ofNat n :: done) rest
  | '\\' :: 'u' :: rest => .error (stopInHex rest)
  | '\\' :: c :: rest =>
    match escaped? c with
    | none => .error (.into .badEscape (c :: rest))
    | some c => readString (c :: done) rest
  | c :: rest =>
    if c.toNat < 0x20 then .error (.into .control (c :: rest)) else readString (c :: done) rest

/-! ### Words -/

/-- The rest of a word, which stands for a value. -/
def readWord (value : Json) : (word : List Char) → List Char → Except Stop (Json × List Char)
  | [], cs => .ok (value, cs)
  | w :: word, cs =>
    match cs with
    | [] => .error (.before .endsInValue [])
    | c :: rest => if c = w then readWord value word rest else .error (.into .noWord cs)

/-! ### Numbers -/

/-- A number as it is written. -/
structure NumberText where
  negative : Bool
  whole : List Char
  fraction : List Char
  /-- Whether an exponent is negative, and its digits. -/
  exponent : Option (Bool × List Char)

/-- Digits off the front. -/
def takeDigits (cs : List Char) : List Char × List Char :=
  (cs.takeWhile Char.isDigit, cs.dropWhile Char.isDigit)

/-- One digit or more; `atEnd` is the flaw of a text that ends before them. -/
def someDigits (atEnd : Flaw) (cs : List Char) : Except Stop (List Char × List Char) :=
  match takeDigits cs with
  | ([], rest) => .error (.next atEnd .noNumber rest)
  | (ds, rest) => .ok (ds, rest)

/-- The digits before the point: no zero before other digits. -/
def wholeDigits (atEnd : Flaw) (cs : List Char) : Except Stop (List Char × List Char) := do
  let (ds, rest) ← someDigits atEnd cs
  if ds.head? = some '0' ∧ 1 < ds.length then throw (.into .noNumber cs.tail)
  return (ds, rest)

/-- An optional fraction: a point and one digit or more. -/
def fractionDigits (atEnd : Flaw) : List Char → Except Stop (List Char × List Char)
  | '.' :: rest => someDigits atEnd rest
  | cs => .ok ([], cs)

/-- An optional exponent. -/
def exponentDigits (atEnd : Flaw) : List Char → Except Stop (Option (Bool × List Char) × List Char)
  | [] => .ok (none, [])
  | c :: rest =>
    if c = 'e' ∨ c = 'E' then do
      let (negative, rest) := match rest with
        | '+' :: rest => (false, rest)
        | '-' :: rest => (true, rest)
        | rest => (false, rest)
      let (ds, rest) ← someDigits atEnd rest
      return (some (negative, ds), rest)
    else .ok (none, c :: rest)

/-- A number as it is written, from after its sign. -/
def numberText (atEnd : Flaw) (negative : Bool) (cs : List Char) :
    Except Stop (NumberText × List Char) := do
  let (whole, cs) ← wholeDigits atEnd cs
  let (fraction, cs) ← fractionDigits atEnd cs
  let (exponent, cs) ← exponentDigits atEnd cs
  return (⟨negative, whole, fraction, exponent⟩, cs)

/-- Appends digits to `n` as long as it stays below `bound`: the number, and
the digits that are left. -/
def gather (bound n : Nat) : List Char → Nat × List Char
  | [] => (n, [])
  | c :: rest =>
    let m := 10 * n + (c.toNat - '0'.toNat)
    if m < bound then gather bound m rest else (n, c :: rest)

namespace NumberText

/-- The digits that count, and the power of ten that they stand at. -/
def parts (t : NumberText) : Nat × Int :=
  let (n, dropped) := gather (Nat.pow 2 64) 0 t.whole
  let (n, left) := gather (Nat.pow 2 64) n t.fraction
  (n, Int.ofNat dropped.length - Int.ofNat (t.fraction.length - left.length))

/-- The integer that is written, if it is one of 64 bits. -/
def integer? (t : NumberText) : Option Int :=
  let n := (gather (Nat.pow 2 64) 0 t.whole).1
  if !t.fraction.isEmpty ∨ t.exponent.isSome ∨ t.parts.2 ≠ 0 then none
  else if !t.negative then some n
  else if 0 < n ∧ n ≤ Nat.pow 2 63 then some (-Int.ofNat n)
  else none

/-- The value of a number that stands before `rest`; an exponent beyond 31
bits is told at the digit with which it gets there. -/
def value (t : NumberText) (rest : List Char) : Except Stop Json :=
  let held (e : Int) : Except Stop Json :=
    match Decimal.held? ⟨t.negative, t.parts.1, e⟩ with
    | some d => .ok (decimal d)
    | none => .error (.before .tooLarge rest)
  match t.integer?, t.exponent with
  | some n, _ => .ok (int n)
  | none, none => held t.parts.2
  | none, some (below, ds) =>
    match gather (Nat.pow 2 31) 0 ds with
    | (e, []) => held (if below then t.parts.2 - Int.ofNat e else t.parts.2 + Int.ofNat e)
    | (_, _ :: left) =>
      if below ∨ t.parts.1 = 0 then .ok (decimal ⟨t.negative, 0, 0⟩)
      else .error (.before .tooLarge (left ++ rest))

end NumberText

/-- A number from after its sign. -/
def readNumber (negative : Bool) (cs : List Char) : Except Stop (Json × List Char) := do
  let (t, rest) ← numberText .endsInValue negative cs
  return (← t.value rest, rest)

/-- A value without parts. -/
def readScalar : List Char → Except Stop (Json × List Char)
  | [] => .error (.before .endsInValue [])
  | c :: rest =>
    if c = '"' then do
      let (s, rest) ← readString [] rest
      return (str s, rest)
    else if c = 'n' then readWord null ['u', 'l', 'l'] rest
    else if c = 't' then readWord (bool true) ['r', 'u', 'e'] rest
    else if c = 'f' then readWord (bool false) ['a', 'l', 's', 'e'] rest
    else if c = '-' then readNumber true rest
    else if c.isDigit then readNumber false (c :: rest)
    else .error (.into .noValue (c :: rest))

end FolderGrants.Json
