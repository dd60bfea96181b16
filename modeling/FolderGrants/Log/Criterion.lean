import FolderGrants.Log.Basic
import FolderGrants.Text.Pattern.Reader

/-!
# What the value of a field must be

A criterion is a truth value, a whole number, a fraction or a pattern, and
whichever of these it can be read as first.  Numbers are compared as numbers, so
`7`, `+7` and `007` ask for the same; patterns are asked of texts only.  No field
holds a fraction.
-/

namespace FolderGrants.Log

/-- What the value of a field must be. -/
inductive Criterion where
  | bool (b : Bool)
  /-- A number from 0 to 2⁶⁴ - 1. -/
  | natural (n : Nat)
  /-- A number from -2⁶³ to 2⁶³ - 1, written with a minus sign. -/
  | integer (n : Int)
  | fraction
  | pattern (source : String)
  deriving DecidableEq, Repr

namespace Criterion

/-- The number that digits write, if there are any and nothing else. -/
def digits? (cs : List Char) : Option Nat :=
  if cs.isEmpty || !cs.all Char.isDigit then none
  else some (cs.foldl (fun n c => 10 * n + (c.toNat - '0'.toNat)) 0)

/-- The number that a text writes in digits, perhaps after a plus sign. -/
def natural? (cs : List Char) : Option Nat :=
  let digits := match cs with
    | '+' :: rest => rest
    | cs => cs
  (digits? digits).filter (· < Nat.pow 2 64)

/-- The number that a text writes in digits after a minus sign. -/
def negative? (cs : List Char) : Option Int :=
  match cs with
  | '-' :: rest => ((digits? rest).filter (· ≤ Nat.pow 2 63)).map fun n => -(n : Int)
  | _ => none

/-- A text without the sign that it may start with. -/
def unsigned (cs : List Char) : List Char :=
  match cs with
  | '+' :: rest => rest
  | '-' :: rest => rest
  | cs => cs

/-- Whether a text is the exponent of a fraction, or nothing. -/
def isExponent (cs : List Char) : Bool :=
  match cs with
  | [] => true
  | c :: rest =>
    let digits := unsigned rest
    (c == 'e' || c == 'E') && !digits.isEmpty && digits.all Char.isDigit

/-- Whether a text writes a fraction: digits on one side of a point at least, or
no point, perhaps an exponent, or one of the words for what is no number. -/
def isFraction (cs : List Char) : Bool :=
  let cs := unsigned cs
  let whole := cs.takeWhile Char.isDigit
  let rest := cs.dropWhile Char.isDigit
  let (part, rest) := match rest with
    | '.' :: rest => (rest.takeWhile Char.isDigit, rest.dropWhile Char.isDigit)
    | rest => ([], rest)
  ["inf", "infinity", "nan"].contains (String.ofList (cs.map Char.toLower)) ||
    (!(whole.isEmpty && part.isEmpty) && isExponent rest)

/-- The criterion that a text is; a text that is nothing else must be a
pattern. -/
def ofText? (s : String) : Option Criterion :=
  let cs := s.toList
  if s = "true" then some (bool true)
  else if s = "false" then some (bool false)
  else match natural? cs, negative? cs with
    | some n, _ => some (natural n)
    | _, some n => some (integer n)
    | none, none =>
      if isFraction cs then some fraction
      else (Text.Pattern.ofText? s).map fun _ => pattern s

/-- Whether a value is as it must be. -/
def accepts (c : Criterion) (v : Field) : Bool :=
  match c, v with
  | bool b, .bool a => a == b
  | natural n, .int a => a == n
  | integer n, .int a => a == n
  | pattern p, .str s => (Text.Pattern.ofText? p).any (·.fits s)
  | _, _ => false

end Criterion

end FolderGrants.Log
