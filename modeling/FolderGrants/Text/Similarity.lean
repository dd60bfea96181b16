import FolderGrants.Decimal

/-!
# Similar words

How much two words resemble each other, to guess what a misspelt one was meant
to be.  Two letters go together when they are equal and stand about equally
far from the start; the measure is the mean of three shares: how many letters
of the first word have a partner, how many of the second, and how many of the
partners stand in the same order.  It is worked out in 64-bit binary fractions,
rounded after every step.
-/

namespace FolderGrants.Text

/-- How far apart partners may stand in words of these lengths. -/
def partnerRange (m n : Nat) : Nat := max m n / 2 - 1

/-- The first free place in `b` that can go with the letter `c` at place `i`. -/
def partner? (range : Nat) (b : List Char) (taken : List Nat) (i : Nat) (c : Char) : Option Nat :=
  (b.zipIdx.find? fun d =>
    d.1 == c && i ≤ d.2 + range && d.2 ≤ i + range && !taken.contains d.2).map (·.2)

/-- The letters of `a` that find a partner, with the places of the partners;
`i` letters stand before them. -/
def partners (range : Nat) (b : List Char) :
    (taken : List Nat) → (i : Nat) → List Char → List (Char × Nat)
  | _, _, [] => []
  | taken, i, c :: rest =>
    match partner? range b taken i c with
    | some j => (c, j) :: partners range b (j :: taken) (i + 1) rest
    | none => partners range b taken (i + 1) rest

/-- The share of `m` in `n`. -/
def share (m n : Nat) : Option Binary := Binary.ofRatio? m n

/-- How much two words resemble each other, from nothing to 1. -/
def similarity (a b : String) : Binary :=
  let x := a.toList
  let y := b.toList
  let found := partners (partnerRange x.length y.length) y [] 0 x
  let places := found.map (·.2)
  let inOrder := (y.zipIdx.filter fun d => places.contains d.2).map (·.1)
  let displaced := ((found.map (·.1)).zip inOrder).countP fun p => p.1 != p.2
  let n := found.length
  let mean := do
    let ends ← (← share n x.length).plus? (← share n y.length)
    (← ends.plus? (← share (n - displaced / 2) n)).over? (← share 3 1)
  if n = 0 then ⟨0, 0⟩ else mean.getD ⟨0, 0⟩

/-- Words that resemble each other less than this are not taken for each
other. -/
def threshold : Binary := (share 7 10).getD ⟨0, 0⟩

/-- The candidates that resemble a word, the nearest last. -/
def similar (word : String) (candidates : List String) : List String :=
  let near := (candidates.map fun c => (similarity word c, c)).filter fun p =>
    threshold.isLess p.1
  (near.mergeSort fun p q => !q.1.isLess p.1).map (·.2)

/-- The candidate that resembles a word most, if one comes near enough. -/
def closest? (word : String) (candidates : List String) : Option String :=
  (similar word candidates).getLast?

end FolderGrants.Text
