/-!
# Decimal texts of 64-bit binary fractions

A number written with a fraction or an exponent is held to the precision of
a 64-bit binary fraction, `mantissa · 2 ^ exponent` with a mantissa below
`2 ^ 53`.  It is shown by the decimal of fewest digits that rounds to it,
found as the coarsest power of ten of which some multiple lies between the
two points halfway to the neighbouring fractions.

* `Binary.ofRatio?` rounds a positive ratio to the nearest fraction, a tie
  to the even mantissa;
* `Binary.scale?` multiplies a fraction by a power of ten, and rounds once
  for the power and once for the product;
* `Binary.shortest` finds the decimal;
* `Decimal.text` writes it.
-/

namespace FolderGrants

/-- The number `± digits · 10 ^ exponent`. -/
structure Decimal where
  negative : Bool
  digits : Nat
  exponent : Int
  deriving DecidableEq, Repr, Inhabited

/-- The number `mantissa · 2 ^ exponent`. -/
structure Binary where
  mantissa : Nat
  exponent : Int
  deriving DecidableEq, Repr

namespace Binary

/-- A numerator and a denominator of `n · b ^ e`. -/
def scaled (n b : Nat) (e : Int) : Nat × Nat :=
  if e < 0 then (n, b.pow e.natAbs) else (n * b.pow e.natAbs, 1)

/-- The quotient rounded to the nearest integer, a tie to the even one. -/
def roundHalfEven (num den : Nat) : Nat :=
  let floor := num / den
  let rest := 2 * (num % den)
  if rest < den then floor
  else if rest = den then floor + floor % 2
  else floor + 1

/-- The nearest fraction to `num / den`, unless it is too large. -/
def ofRatio? (num den : Nat) : Option Binary :=
  if num = 0 then some ⟨0, -1074⟩
  else
    let guess : Int := Int.ofNat num.log2 - Int.ofNat den.log2
    let (a, b) := scaled den 2 guess
    let top := if num * b ≥ a then guess else guess - 1
    let e := max (top - 52) (-1074)
    let (a, b) := scaled den 2 e
    let m := roundHalfEven (num * b) a
    let x : Binary := if m = Nat.pow 2 53 then ⟨Nat.pow 2 52, e + 1⟩ else ⟨m, e⟩
    if x.exponent > 971 then none else some x

/-- The nearest fraction to the product of two. -/
def times? (x y : Binary) : Option Binary :=
  let (num, den) := scaled (x.mantissa * y.mantissa) 2 (x.exponent + y.exponent)
  ofRatio? num den

/-- The nearest fraction to the quotient of two. -/
def over? (x y : Binary) : Option Binary :=
  let (num, den) := scaled x.mantissa 2 (x.exponent - y.exponent)
  ofRatio? num (den * y.mantissa)

/-- The nearest fraction to the sum of two. -/
def plus? (x y : Binary) : Option Binary :=
  let e := min x.exponent y.exponent
  let shifted (z : Binary) := z.mantissa * Nat.pow 2 (z.exponent - e).toNat
  let (num, den) := scaled (shifted x + shifted y) 2 e
  ofRatio? num den

/-- Whether a fraction is less than another. -/
def isLess (x y : Binary) : Bool :=
  let (a, b) := scaled x.mantissa 2 x.exponent
  let (c, d) := scaled y.mantissa 2 y.exponent
  a * d < c * b

/-- The nearest fraction to a power of ten that is not too large. -/
def power (e : Nat) : Binary := (ofRatio? (Nat.pow 10 e) 1).getD ⟨0, -1074⟩

/-- `x · 10 ^ e`, by powers up to the largest that is a fraction; none if the
result is too large.  Two divisions by that power leave nothing of a number of
twenty digits, so three steps are enough for one. -/
def scale? : (steps : Nat) → Binary → Int → Option Binary
  | 0, x, _ => some x
  | steps + 1, x, e =>
    if x.mantissa = 0 then some x
    else if 308 < e then none
    else if 0 ≤ e then x.times? (power e.toNat)
    else if -308 ≤ e then x.over? (power e.natAbs)
    else do scale? steps (← x.over? (power 308)) (e + 308)

/-- Whether `n · 10 ^ e` rounds to `x`; the ends count for an even mantissa. -/
def accepts (x : Binary) (n : Nat) (e : Int) : Bool :=
  let (a, b) := scaled n 10 e
  let (c, d) := scaled 1 2 (x.exponent - 2)
  let below := if x.mantissa = Nat.pow 2 52 ∧ x.exponent > -1074 then 1 else 2
  let value := a * d
  let low := (4 * x.mantissa - below) * c * b
  let high := (4 * x.mantissa + 2) * c * b
  if x.mantissa % 2 = 0 then low ≤ value && value ≤ high
  else low < value && value < high

/-- The multiple of `10 ^ e` that rounds to `x` and lies nearest to it. -/
def onGrid? (x : Binary) (e : Int) : Option Nat :=
  let (a, b) := scaled x.mantissa 2 x.exponent
  let (c, d) := scaled 1 10 e
  let num := a * d
  let den := b * c
  let floor := num / den
  let lower := floor ≠ 0 ∧ x.accepts floor e = true
  let upper := x.accepts (floor + 1) e = true
  if lower ∧ (¬upper ∨ 2 * (num % den) ≤ den) then some floor
  else if upper then some (floor + 1)
  else none

/-- The first hit on the grids `10 ^ e`, `10 ^ (e - 1)`, … -/
def firstHit (x : Binary) : Nat → Int → Nat × Int
  | 0, e => (x.mantissa, e)
  | fuel + 1, e =>
    match x.onGrid? e with
    | some n => (n, e)
    | none => firstHit x fuel (e - 1)

/-- The decimal of fewest digits that rounds to `x`. -/
def shortest (x : Binary) (negative : Bool) : Decimal :=
  if x.mantissa = 0 then ⟨negative, 0, 0⟩
  else
    let (n, e) := firstHit x 640 309
    ⟨negative, n, e⟩

end Binary

namespace Decimal

/-- What `± digits · 10 ^ exponent` is held as: the digits are rounded first,
and then the product; none if it is too large. -/
def held? (d : Decimal) : Option Decimal := do
  let x ← Binary.ofRatio? d.digits 1
  return (← x.scale? 3 d.exponent).shortest d.negative

/-- The text with `point` digits before the decimal point. -/
def placePoint (digits : List Char) (point : Int) : List Char :=
  if point ≤ 0 then ['0', '.'] ++ List.replicate point.natAbs '0' ++ digits
  else
    let whole := digits.take point.toNat
    let zeros := List.replicate (point.toNat - digits.length) '0'
    let rest := digits.drop point.toNat
    whole ++ zeros ++ ['.'] ++ (if rest.isEmpty then ['0'] else rest)

def signText (d : Decimal) : List Char := if d.negative then ['-'] else []

/-- The number without an exponent, with at least one digit on each side of
the point. -/
def positional (d : Decimal) : String :=
  if d.digits = 0 then String.ofList (d.signText ++ ['0', '.', '0'])
  else
    let ds := Nat.toDigits 10 d.digits
    String.ofList (d.signText ++ placePoint ds (Int.ofNat ds.length + d.exponent))

/-- The number, with an exponent when the point falls more than sixteen digits
after the first digit or more than four zeros before it. -/
def text (d : Decimal) : String :=
  let ds := Nat.toDigits 10 d.digits
  let point : Int := Int.ofNat ds.length + d.exponent
  if d.digits = 0 ∨ (-5 < point ∧ point ≤ 16) then d.positional
  else
    let tail := if ds.length = 1 then [] else '.' :: ds.drop 1
    let sign := if point ≤ 0 then '-' else '+'
    String.ofList (d.signText ++ ds.take 1 ++ tail ++ ['e', sign] ++
      Nat.toDigits 10 (point - 1).natAbs)

end Decimal

end FolderGrants
