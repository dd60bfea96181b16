import FolderGrants.Instant.Basic
import FolderGrants.Text.Blank

/-!
# Reading instants

The accepted texts are those of RFC 3339 with some latitude: blanks may
stand around the fields, a blank may stand for the `T`, a year may carry a
sign and more digits, a fraction beyond nanoseconds is cut, and the offset
may be `Z`, `UTC` or hours and minutes.

A text is refused at the first field that fails, so the fault tells which
kind of failure came first from the left.  That the day exists is looked at
after all fields, and last that the day is kept in universal time too.
-/

namespace FolderGrants.Instant

/-- Why a text is no instant. -/
inductive Fault where
  | outOfRange
  | invalid
  | tooShort
  | tooLong
  /-- In universal time the day falls outside the years that are kept. -/
  | impossible
  deriving DecidableEq, Repr

/-- The wording of a fault. -/
def Fault.message : Fault → String
  | outOfRange => "input is out of range"
  | invalid => "input contains invalid characters"
  | tooShort => "premature end of input"
  | tooLong => "trailing input"
  | impossible => "no possible date and time matching input"

/-- Takes a value off the front of the remaining characters. -/
abbrev Scanner (α : Type) := StateT (List Char) (Except Fault) α

def skipBlanks : Scanner Unit := modify (·.dropWhile Text.isBlank)

def digitsValue (ds : List Char) : Nat :=
  ds.foldl (fun n c => 10 * n + (c.toNat - '0'.toNat)) 0

/-- One digit or more, and no more than `width`. -/
def scanDigits (width : Nat) : Scanner (List Char)
  | [] => .error .tooShort
  | c :: rest =>
    if c.isDigit then
      let ds := ((c :: rest).take width).takeWhile Char.isDigit
      .ok (ds, (c :: rest).drop ds.length)
    else .error .invalid

/-- The value `n`, if it lies between the bounds. -/
def within (low high n : Int) : Scanner Int :=
  if low ≤ n ∧ n ≤ high then pure n else throw .outOfRange

/-- A field of up to two digits, between the given bounds. -/
def scanField (low high : Nat) : Scanner Nat := do
  skipBlanks
  let ds ← scanDigits 2
  let n ← within low high (digitsValue ds)
  return n.toNat

/-- A number of any length that fits into 64 bits. -/
def scanLong : Scanner Int := do
  let ds ← scanDigits (← get).length
  within 0 9223372036854775807 (digitsValue ds)

/-- A year: up to four digits, or a sign and any number of them. -/
def scanYear : Scanner Int := do
  skipBlanks
  let year ← match (← get) with
    | '-' :: rest => do
      set rest
      return -(← scanLong)
    | '+' :: rest => do
      set rest
      scanLong
    | _ => do return Int.ofNat (digitsValue (← scanDigits 4))
  within (-2147483648) 2147483647 year

/-- One of the given marks. -/
def scanMark (marks : List Char) : Scanner Unit
  | [] => .error .tooShort
  | c :: rest => if c ∈ marks then .ok ((), rest) else .error .invalid

/-- An optional fraction, in nanoseconds. -/
def scanFraction : Scanner Nat := do
  match (← get) with
  | '.' :: rest =>
    set rest
    let ds ← scanDigits 9
    modify (·.dropWhile Char.isDigit)
    return digitsValue ds * Nat.pow 10 (9 - ds.length)
  | _ => return 0

/-- Two digits, the first of them at most `high`. -/
def scanPair (high : Char) : Scanner Nat
  | a :: b :: rest =>
    if a.isDigit && b.isDigit then
      if a ≤ high then .ok (digitsValue [a, b], rest) else .error .outOfRange
    else .error .invalid
  | [a] => if a.utf8Size < 2 then .error .tooShort else .error .invalid
  | [] => .error .tooShort

/-- Hours and minutes of an offset, in seconds. -/
def scanClock : Scanner Int := do
  let h ← scanPair '9'
  modify (·.dropWhile fun c => c = ':' || Text.isBlank c)
  let m ← scanPair '5'
  return Int.ofNat (h * 3600 + m * 60)

/-- An offset from universal time, in seconds. -/
def scanOffset : Scanner Int := do
  let cs ← get
  if (cs.take 3).map Char.toUpper = ['U', 'T', 'C'] then
    set (cs.drop 3)
    return 0
  else
    match cs with
    | [] => throw .tooShort
    | c :: rest =>
      set rest
      if c = 'Z' ∨ c = 'z' then return 0
      else if c = '+' then scanClock
      else if c = '-' ∨ c = '\u2212' then return -(← scanClock)
      else throw .invalid

/-- A mark between two numbers, with blanks before it. -/
def scanSeparator (mark : Char) : Scanner Unit := do
  skipBlanks
  scanMark [mark]

/-- The end of the text. -/
def scanEnd : Scanner Unit := do
  skipBlanks
  unless (← get).isEmpty do throw .tooLong

/-- An instant, as far as its fields are in range. -/
def scanner : Scanner Instant := do
  let year ← scanYear
  scanSeparator '-'
  let month ← scanField 1 12
  scanSeparator '-'
  let day ← scanField 1 31
  scanMark ['t', 'T', ' ']
  let hour ← scanField 0 23
  scanSeparator ':'
  let minute ← scanField 0 59
  scanSeparator ':'
  let second ← scanField 0 60
  let nanos ← scanFraction
  skipBlanks
  let offset ← scanOffset
  scanEnd
  let offset ← within (-86399) 86399 offset
  let date : Day := ⟨year, month, day⟩
  if !date.isValid then throw .outOfRange
  let leap := if second = 60 then 1 else 0
  let clock : Int := Int.ofNat (hour * 3600 + minute * 60 + (second - leap))
  let seconds := date.number * 86400 + clock - offset
  if !(Day.ofNumber (seconds / 86400)).isValid then throw .impossible
  return ⟨seconds, nanos + leap * 1000000000⟩

/-- The instant that an RFC 3339 text names. -/
def ofText (s : String) : Except Fault Instant := (scanner.run s.toList).map (·.1)

end FolderGrants.Instant
