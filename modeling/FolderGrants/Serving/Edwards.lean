import FolderGrants.Serving.Curve
import FolderGrants.Serving.Digest

/-!
# The Edwards curve

The points of `-x² + y² = 1 + d x² y²` over the field of `2²⁵⁵ - 19` elements,
with `d = -121665 / 121666`.  Points are kept as `x = X / Z`, `y = Y / Z` and
`T = X Y / Z`.  A private key is 32 bytes, of whose digest a multiple of the base
point is taken; the public key is the multiple's `y`, the least significant byte
first, with the last bit of `x` on top.
-/

namespace FolderGrants.Edwards

/-- The size of the field. -/
def prime : Nat := Nat.pow 2 255 - 19

/-- The coefficient of the curve. -/
def coefficient : Nat := (prime - 121665) * inverseModulo prime 121666 % prime

/-- A point. -/
structure Point where
  x : Nat
  y : Nat
  z : Nat
  t : Nat
  deriving DecidableEq, Repr

/-- The point that is added without effect. -/
def zero : Point := ⟨0, 1, 1, 0⟩

/-- The base point, whose `y` is four fifths. -/
def base : Point :=
  let x := 0x216936D3CD6E53FEC0A4E231FDD6DC5C692CC7609525A7B2C9562D608F25D51A
  let y := 4 * inverseModulo prime 5 % prime
  ⟨x, y, 1, x * y % prime⟩

/-- The difference in the field. -/
def sub (a b : Nat) : Nat := (a + (prime - b % prime)) % prime

/-- The sum of two points. -/
def add (p q : Point) : Point :=
  let a := sub p.y p.x * sub q.y q.x % prime
  let b := (p.y + p.x) * (q.y + q.x) % prime
  let c := p.t * (2 * coefficient) * q.t % prime
  let d := 2 * p.z * q.z % prime
  let e := sub b a
  let f := sub d c
  let g := (d + c) % prime
  let h := (b + a) % prime
  ⟨e * f % prime, g * h % prime, f * g % prime, e * h % prime⟩

/-- The multiple of a point, where `bits` bounds the bits of the factor. -/
def multiple (p : Point) : (bits factor : Nat) → Point
  | 0, _ => zero
  | bits + 1, n =>
    let half := multiple p bits (n / 2)
    let even := add half half
    if n % 2 = 1 then add even p else even

/-- The number that bytes write, the least significant first. -/
def littleEndian (bs : Bytes) : Nat := bs.foldr (fun b n => b.toNat + 256 * n) 0

/-- The factor of a private key: half of its digest, a multiple of eight from
`2²⁵⁴` up. -/
def factor (secret : Bytes) : Nat :=
  let n := littleEndian ((Digest.sha512 secret).take 32)
  Nat.pow 2 254 + n % Nat.pow 2 254 / 8 * 8

/-- The public key of a private key. -/
def publicKey (secret : Bytes) : Bytes :=
  let p := multiple base 255 (factor secret)
  let inverse := inverseModulo prime p.z
  let x := p.x * inverse % prime
  let y := p.y * inverse % prime
  (Base64.bytesOf 32 (y + x % 2 * Nat.pow 2 255)).reverse

end FolderGrants.Edwards
