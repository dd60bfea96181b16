/-!
# Elliptic curves

The points of the curves `y² = x³ - 3x + b` over a prime field, with which keys
are made: the public key is the private key's multiple of the curve's base
point.  Points are kept as `x = X / Z²` and `y = Y / Z³`, so that only the last
step divides; where `Z` is zero the point is the one at infinity.
-/

namespace FolderGrants

/-- The product of so many factors `b` modulo `m`, where `bits` bounds the bits of
the number of factors. -/
def powerModulo (m : Nat) : (bits : Nat) → (b e : Nat) → Nat
  | 0, _, _ => 1 % m
  | bits + 1, b, e =>
    let half := powerModulo m bits (b * b % m) (e / 2)
    if e % 2 = 1 then half * b % m else half

/-- The inverse of a number modulo a prime. -/
def inverseModulo (p a : Nat) : Nat := powerModulo p (p.log2 + 1) a (p - 2)

/-- A curve, by the name that keys call it. -/
structure Curve where
  identifier : List UInt8
  /-- The size of the field. -/
  prime : Nat
  /-- How many multiples the base point has. -/
  order : Nat
  baseX : Nat
  baseY : Nat
  /-- How many bytes a coordinate takes. -/
  size : Nat
  deriving DecidableEq, Repr

namespace Curve

/-- The curve over the field of `2²⁵⁶ - 2²²⁴ + 2¹⁹² + 2⁹⁶ - 1` elements. -/
def p256 : Curve where
  identifier := [0x2A, 0x86, 0x48, 0xCE, 0x3D, 0x03, 0x01, 0x07]
  prime := 0xFFFFFFFF00000001000000000000000000000000FFFFFFFFFFFFFFFFFFFFFFFF
  order := 0xFFFFFFFF00000000FFFFFFFFFFFFFFFFBCE6FAADA7179E84F3B9CAC2FC632551
  baseX := 0x6B17D1F2E12C4247F8BCE6E563A440F277037D812DEB33A0F4A13945D898C296
  baseY := 0x4FE342E2FE1A7F9B8EE7EB4A7C0F9E162BCE33576B315ECECBB6406837BF51F5
  size := 32

/-- The curve over the field of `2³⁸⁴ - 2¹²⁸ - 2⁹⁶ + 2³² - 1` elements. -/
def p384 : Curve where
  identifier := [0x2B, 0x81, 0x04, 0x00, 0x22]
  prime := Nat.pow 2 384 - Nat.pow 2 128 - Nat.pow 2 96 + Nat.pow 2 32 - 1
  order := Nat.pow 2 384 - 0x389CB27E0BC8D220A7E5F24DB74F58851313E695333AD68D
  baseX := 0xAA87CA22BE8B05378EB1C71EF320AD746E1D3B628BA79B98 * Nat.pow 2 192 +
    0x59F741E082542A385502F25DBF55296C3A545E3872760AB7
  baseY := 0x3617DE4A96262C6F5D9E98BF9292DC29F8F41DBD289A147C * Nat.pow 2 192 +
    0xE9DA3113B5F0B8C00A60B1CE1D7E819D7A431D7C90EA0E5F
  size := 48

/-- The curve over the field of `2⁵²¹ - 1` elements. -/
def p521 : Curve where
  identifier := [0x2B, 0x81, 0x04, 0x00, 0x23]
  prime := Nat.pow 2 521 - 1
  order := Nat.pow 2 521 -
    0x5AE79787C40D069948033FEB708F65A2FC44A36477663B851449048E16EC79BF7
  baseX := 0xC6858E06B70404E9CD9E3ECB662395B4429C648139053FB521F828AF606B4D3DBA *
      Nat.pow 2 256 +
    0xA14B5E77EFE75928FE1DC127A2FFA8DE3348B3C1856A429BF97E7E31C2E5BD66
  baseY := 0x11839296A789A3BC0045C8A5FB42C7D1BD998F54449579B446817AFBD17273E662C *
      Nat.pow 2 256 +
    0x97EE72995EF42640C550B9013FAD0761353C7086A272C24088BE94769FD16650
  size := 66

/-- The curves with which keys can be made, in the order in which they are
tried. -/
def all : List Curve := [p256, p384, p521]

/-- A point; at infinity if `z` is zero. -/
structure Point where
  x : Nat
  y : Nat
  z : Nat
  deriving DecidableEq, Repr

/-- The difference in the field. -/
def sub (c : Curve) (a b : Nat) : Nat := (a + (c.prime - b % c.prime)) % c.prime

/-- The product in the field. -/
def mul (c : Curve) (a b : Nat) : Nat := a * b % c.prime

/-- Twice a point. -/
def double (c : Curve) (p : Point) : Point :=
  let delta := c.mul p.z p.z
  let gamma := c.mul p.y p.y
  let beta := c.mul p.x gamma
  let alpha := c.mul 3 (c.mul (c.sub p.x delta) (p.x + delta))
  let x := c.sub (c.mul alpha alpha) (8 * beta)
  { x
    y := c.sub (c.mul alpha (c.sub (4 * beta) x)) (8 * c.mul gamma gamma)
    z := c.mul (2 * p.y) p.z }

/-- The sum of two points. -/
def add (c : Curve) (p q : Point) : Point :=
  if p.z = 0 then q
  else if q.z = 0 then p
  else
    let pz := c.mul p.z p.z
    let qz := c.mul q.z q.z
    let u := c.mul p.x qz
    let s := c.mul p.y (c.mul q.z qz)
    let h := c.sub (c.mul q.x pz) u
    let r := c.sub (c.mul q.y (c.mul p.z pz)) s
    if h = 0 then
      if r = 0 then c.double p else ⟨1, 1, 0⟩
    else
      let hh := c.mul h h
      let hhh := c.mul h hh
      let v := c.mul u hh
      let x := c.sub (c.mul r r) (hhh + 2 * v)
      { x
        y := c.sub (c.mul r (c.sub v x)) (c.mul s hhh)
        z := c.mul h (c.mul p.z q.z) }

/-- The multiple of a point, where `bits` bounds the bits of the factor. -/
def multiple (c : Curve) (p : Point) : (bits factor : Nat) → Point
  | 0, _ => ⟨1, 1, 0⟩
  | bits + 1, n =>
    let half := c.double (c.multiple p bits (n / 2))
    if n % 2 = 1 then c.add half p else half

/-- The coordinates of a point that is not at infinity. -/
def coordinates (c : Curve) (p : Point) : Nat × Nat :=
  let inverse := inverseModulo c.prime p.z
  let square := c.mul inverse inverse
  (c.mul p.x square, c.mul p.y (c.mul square inverse))

/-- The public key of a private key, which lies below the order. -/
def publicKey (c : Curve) (secret : Nat) : Nat × Nat :=
  c.coordinates (c.multiple ⟨c.baseX, c.baseY, 1⟩ (c.order.log2 + 1) secret)

end Curve

end FolderGrants
