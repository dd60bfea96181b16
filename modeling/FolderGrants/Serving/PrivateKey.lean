import FolderGrants.Serving.Curve
import FolderGrants.Serving.Der
import FolderGrants.Serving.Edwards

/-!
# Private keys

A private key comes in one of three forms, which are told apart by how they
begin and not by what a file calls them: the general one, which names the
algorithm, the one of RSA, and the one of elliptic curves.  From a key follows
the public key that a certificate must be about (`PrivateKey.publicKeyInfo?`).

Accepted are keys of RSA with 2048 to 8192 bits, keys on three curves and on the
Edwards curve, if their parts agree with each other.
-/

namespace FolderGrants.PrivateKey

open Der

/-- The form of a private key. -/
inductive Form where
  | general
  | rsa
  | curve
  deriving DecidableEq, Repr

/-- The form of a private key, by its first two parts; what says its length is not
looked at. -/
def form? (der : Bytes) : Option Form :=
  match der with
  | tag :: size :: _ =>
    let skipped := if size < 128 then 2 else size.toNat - 126
    if tag ≠ sequence ∨ der.length < skipped then none
    else
      match der.drop skipped with
      | 0x02 :: 0x01 :: version :: rest =>
        if rest.head? = some sequence then some .general
        else if version = 0 then some .rsa
        else if version = 1 then some .curve
        else none
      | _ => none
  | _ => none

/-- What a public key says of itself: the algorithm, and the key. -/
def info (algorithm key : Bytes) : Bytes :=
  value sequence algorithm ++ value bitString (0 :: key)

/-! ### RSA -/

/-- The algorithm of RSA. -/
def rsaIdentifier : Bytes := [0x2A, 0x86, 0x48, 0x86, 0xF7, 0x0D, 0x01, 0x01, 0x01]

/-- Reads numbers, so many. -/
def naturals : Nat → Bytes → Option (List Nat × Bytes)
  | 0, bs => some ([], bs)
  | n + 1, bs =>
    (natural? bs).bind fun (x, rest) => (naturals n rest).map fun (xs, rest) => (x :: xs, rest)

/-- Whether the parts of a key of RSA agree. -/
def agrees (n e d p q dp dq qi : Nat) : Bool :=
  n == p * q && e % 2 == 1 && 3 ≤ e && e < Nat.pow 2 33 && d < n &&
    d * e % (p - 1) == 1 && d * e % (q - 1) == 1 &&
    dp < p - 1 && dp * e % (p - 1) == 1 && dq < q - 1 && dq * e % (q - 1) == 1 &&
    qi < p && qi * q % p == 1

/-- A number that is not negative; a zero comes first where a sign would be. -/
def encodeNatural (n : Nat) : Bytes := value integer (Base64.bytesOf ((n.log2 + 1) / 8 + 1) n)

/-- The public key of a key of RSA, and what follows the key. -/
def rsaInfo? (der : Bytes) : Option (Bytes × Bytes) := do
  let (whole, after) ← read? sequence der
  match ← naturals 9 whole with
  | ([0, n, e, d, p, q, dp, dq, qi], []) =>
    if agrees n e d p q dp dq qi && 2047 ≤ n.log2 && n.log2 < 8192 then
      some (info (value identifier rsaIdentifier ++ value null [])
        (value sequence (encodeNatural n ++ encodeNatural e)), after)
    else none
  | _ => none

/-! ### Elliptic curves -/

/-- The algorithm of keys on curves. -/
def curveIdentifier : Bytes := [0x2A, 0x86, 0x48, 0xCE, 0x3D, 0x02, 0x01]

/-- A point in full. -/
def pointInFull (c : Curve) (p : Nat × Nat) : Bytes :=
  0x04 :: (Base64.bytesOf c.size p.1 ++ Base64.bytesOf c.size p.2)

/-- How a point may be written: in full, with the last bit of its second coordinate
instead of that, or with both. -/
def writings (c : Curve) (p : Nat × Nat) : List Bytes :=
  let x := Base64.bytesOf c.size p.1
  let y := Base64.bytesOf c.size p.2
  let bit := UInt8.ofNat (p.2 % 2)
  [pointInFull c p, (0x02 + bit) :: x, (0x06 + bit) :: (x ++ y)]

/-- The curve that is named. -/
def namedCurve? (parameters : Bytes) : Option Curve :=
  (only? identifier parameters).bind fun name => Curve.all.find? (·.identifier == name)

/-- The public key of a key on the curve, and what follows the key.  The key may
name its curve and hold its public key, which must be the right ones. -/
def curveInfo? (c : Curve) (der : Bytes) : Option (Bytes × Bytes) := do
  let (whole, after) ← read? sequence der
  let (version, rest) ← natural? whole
  let (secret, rest) ← read? octetString rest
  let (parameters, rest) ← optional? (context 0) rest
  let (point, rest) ← optional? (context 1) rest
  let secret := natural secret
  let key := c.publicKey secret
  let held (p : Bytes) : Bool :=
    ((only? bitString p).bind wholeBytes?).any fun p => (writings c key).contains p
  if version = 1 && rest.isEmpty && 0 < secret && secret < c.order &&
      parameters.all (namedCurve? · == some c) && point.all held then
    some (info (value identifier curveIdentifier ++ value identifier c.identifier)
      (pointInFull c key), after)
  else none

/-! ### The Edwards curve -/

/-- The algorithm of keys on the Edwards curve. -/
def edwardsIdentifier : Bytes := [0x2B, 0x65, 0x70]

/-- The public key of a key on the Edwards curve. -/
def edwardsInfo? (key : Bytes) : Option Bytes := do
  let secret ← only? octetString key
  if secret.length = 32 then
    some (info (value identifier edwardsIdentifier) (Edwards.publicKey secret))
  else none

/-! ### All of them -/

/-- What was read if nothing follows it. -/
def alone (r : Option (Bytes × Bytes)) : Option Bytes :=
  r.bind fun (x, rest) => if rest.isEmpty then some x else none

/-- The public key of a key in the general form. -/
def generalInfo? (der : Bytes) : Option Bytes := do
  let (whole, _) ← read? sequence der
  let (version, rest) ← natural? whole
  let (algorithm, rest) ← read? sequence rest
  let (name, parameters) ← read? identifier algorithm
  let (key, _) ← read? octetString rest
  if 1 < version then none
  else if name = rsaIdentifier then
    if parameters = value null [] then alone (rsaInfo? key) else none
  else if name = curveIdentifier then
    (namedCurve? parameters).bind fun c => alone (curveInfo? c key)
  else if name = edwardsIdentifier then
    if parameters.isEmpty then edwardsInfo? key else none
  else none

/-- The public key of a private key, as a certificate says it. -/
def publicKeyInfo? (form : Form) (der : Bytes) : Option Bytes :=
  match form with
  | .general => generalInfo? der
  | .rsa => (rsaInfo? der).map (·.1)
  | .curve => Curve.all.findSome? fun c => (curveInfo? c der).map (·.1)

end FolderGrants.PrivateKey
