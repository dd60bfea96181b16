/-!
# Patterns

A pattern says what a piece of a text looks like.  Where a pattern leaves
several ways open it prefers some to others: the earlier alternative to the
later one, more rounds of a loop to fewer, unless the loop is reluctant.  So
the places where a match that starts at a given place may end have an order,
the preferred ones first (`Pattern.ends`).

A text fits a pattern if the match that the pattern prefers, among those that
start as early as any match does, reaches the end of the text.  Thus `b|bc`
does not fit `bc`, since it prefers to stop after `b`; `bc|b` does.
-/

namespace FolderGrants.Text

/-- A place in a text: what stands before it, the nearest first, and what
follows it. -/
structure Place where
  before : List Char
  after : List Char
  deriving DecidableEq, Repr

/-- Whether a character is part of a word. -/
def isWordPart (c : Char) : Bool := c.isAlphanum || c == '_'

/-- What can be asked of a place without going on from it. -/
inductive Edge where
  | textStart
  | textEnd
  /-- The start of a line; lines also end at a carriage return if `returns`. -/
  | lineStart (returns : Bool)
  | lineEnd (returns : Bool)
  /-- Just one of the two neighbours is part of a word. -/
  | wordEdge
  | noWordEdge
  | wordStart
  | wordEnd
  deriving DecidableEq, Repr

namespace Edge

/-- Whether the place has the edge. -/
def holds (e : Edge) (p : Place) : Bool :=
  let left := p.before.head?
  let right := p.after.head?
  let inWord (c : Option Char) : Bool := c.any isWordPart
  match e with
  | textStart => left.isNone
  | textEnd => right.isNone
  | lineStart returns =>
    left.isNone || left == some '\n' || (returns && left == some '\r' && right != some '\n')
  | lineEnd returns =>
    right.isNone || (right == some '\n' && !(returns && left == some '\r')) ||
      (returns && right == some '\r')
  | wordEdge => inWord left != inWord right
  | noWordEdge => inWord left == inWord right
  | wordStart => !inWord left && inWord right
  | wordEnd => inWord left && !inWord right

end Edge

/-- What a piece of a text looks like. -/
inductive Pattern where
  /-- Nothing. -/
  | empty
  /-- One character of a set. -/
  | one (set : Char → Bool)
  /-- Nothing, at a place with the edge. -/
  | edge (e : Edge)
  | seq (p q : Pattern)
  | either (p q : Pattern)
  /-- Any number of rounds; `eager` prefers more of them. -/
  | loop (p : Pattern) (eager : Bool)

namespace Pattern

/-- Where rounds of `step` may end.  A round that takes nothing is the last
one. -/
def rounds (step : Place → List Place) (eager : Bool) : Nat → Place → List Place
  | 0, p => [p]
  | fuel + 1, p =>
    let more := (step p).flatMap fun q =>
      if q.after.length < p.after.length then rounds step eager fuel q else [p]
    if eager then more ++ [p] else p :: more

/-- Where a match that starts at a place may end, the preferred places first. -/
def ends : Pattern → Place → List Place
  | empty, p => [p]
  | one set, p =>
    match p.after with
    | c :: rest => if set c then [⟨c :: p.before, rest⟩] else []
    | [] => []
  | edge e, p => if e.holds p then [p] else []
  | seq a b, p => (a.ends p).flatMap b.ends
  | either a b, p => a.ends p ++ b.ends p
  | loop a eager, p => rounds a.ends eager p.after.length p

/-- The places of a text from `before` on, in order. -/
def places (before : List Char) : List Char → List Place
  | [] => [⟨before, []⟩]
  | c :: rest => ⟨before, c :: rest⟩ :: places (c :: before) rest

/-- Where the preferred match ends. -/
def firstEnd? (p : Pattern) (s : String) : Option Place :=
  (places [] s.toList).findSome? fun i => (p.ends i).head?

/-- Whether the preferred match reaches the end of the text. -/
def fits (p : Pattern) (s : String) : Bool := (p.firstEnd? s).any (·.after.isEmpty)

end Pattern

end FolderGrants.Text
