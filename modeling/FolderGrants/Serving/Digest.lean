import FolderGrants.Serving.Base64

/-!
# Digests

The digest of 512 bits that keys on the Edwards curve are made with.  Data are
cut into blocks of sixteen words, the last one filled up; each block stirs eight
words, and the eight words in the end are the digest.  The words to start with
are the fractions of square roots of primes, and those added in each round the
fractions of cube roots.
-/

namespace FolderGrants.Digest

/-- The largest number whose `power`-th power is at most `n`, among those with so
many bits more than `low`. -/
def root (power n : Nat) : (bits low : Nat) → Nat
  | 0, low => low
  | bits + 1, low =>
    let next := low + Nat.pow 2 bits
    root power n bits (if Nat.pow next power ≤ n then next else low)

/-- The first 64 bits of the fraction of the root of a small number. -/
def rootWord (power prime : Nat) : UInt64 :=
  UInt64.ofNat (root power (prime * Nat.pow 2 (64 * power)) 70 0)

/-- The first primes, as many as there are rounds. -/
def primes : List Nat :=
  (List.range 410).filter fun n => 1 < n && (List.range n).all fun d => d < 2 || n % d != 0

/-- The words to start with. -/
def start : List UInt64 := (primes.take 8).map (rootWord 2)

/-- The words added in each round. -/
def additions : List UInt64 := primes.map (rootWord 3)

/-- A word turned to the right. -/
def turned (x : UInt64) (n : UInt64) : UInt64 := (x >>> n) ||| (x <<< (64 - n))

/-- The words of a block and those that follow from them, so many more; `last` are
the sixteen before the next one, the latest first. -/
def schedule : (more : Nat) → (last : List UInt64) → List UInt64
  | 0, last => last.reverse
  | more + 1, last =>
    let word (i : Nat) : UInt64 := last.getD i 0
    let near := turned (word 1) 19 ^^^ turned (word 1) 61 ^^^ (word 1 >>> 6)
    let far := turned (word 14) 1 ^^^ turned (word 14) 8 ^^^ (word 14 >>> 7)
    schedule more ((near + word 6 + far + word 15) :: last)

/-- What a round makes of the eight words. -/
def stir (words : List UInt64) (w : UInt64) : List UInt64 :=
  match words with
  | [a, b, c, d, e, f, g, h] =>
    let mixed := turned e 14 ^^^ turned e 18 ^^^ turned e 41
    let choice := (e &&& f) ^^^ ((e ^^^ 0xFFFFFFFFFFFFFFFF) &&& g)
    let gained := h + mixed + choice + w
    let other := turned a 28 ^^^ turned a 34 ^^^ turned a 39
    let majority := (a &&& b) ^^^ (a &&& c) ^^^ (b &&& c)
    [gained + other + majority, a, b, c, d + gained, e, f, g]
  | words => words

/-- The word of eight bytes. -/
def word (bs : Bytes) : UInt64 := bs.foldl (fun n b => (n <<< 8) ||| b.toUInt64) 0

/-- The pieces of a list, of so many elements each. -/
def pieces {α : Type} (size : Nat) (fuel : Nat) (xs : List α) : List (List α) :=
  match fuel with
  | 0 => []
  | fuel + 1 => if xs.isEmpty then [] else xs.take size :: pieces size fuel (xs.drop size)

/-- What a block makes of the eight words. -/
def absorb (words : List UInt64) (block : Bytes) : List UInt64 :=
  let schedule := schedule 64 ((pieces 8 16 block).map word).reverse
  let stirred := (List.zipWith (· + ·) schedule additions).foldl stir words
  List.zipWith (· + ·) words stirred

/-- Data filled up to whole blocks: a bit, then zeros, then the number of bits. -/
def filled (bs : Bytes) : Bytes :=
  let zeros := (239 - bs.length % 128) % 128
  bs ++ 0x80 :: (List.replicate zeros 0 ++ Base64.bytesOf 16 (8 * bs.length))

/-- The digest. -/
def sha512 (bs : Bytes) : Bytes :=
  let all := filled bs
  ((pieces 128 all.length all).foldl absorb start).flatMap fun w => Base64.bytesOf 8 w.toNat

end FolderGrants.Digest
