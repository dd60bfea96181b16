import FolderGrants.Json.Flaw
import FolderGrants.Json.Misfit

/-!
# Where reading stops

A reader goes through a text from the left and stops at the first thing it
objects to: a flaw of the text or a value that does not fit.  The place where
it stops is kept as the number of bytes that it has not read; it may lie
within a character, since a reader that does not want what comes next has
read one byte of it.
-/

namespace FolderGrants

/-- What a reader objects to. -/
inductive Objection where
  | flaw (f : Json.Flaw)
  | misfit (m : Misfit)
  deriving DecidableEq, Repr

/-- The wording of an objection. -/
def Objection.message : Objection → String
  | flaw f => f.message
  | misfit m => m.message

namespace Json

/-- The number of bytes of characters. -/
def size (cs : List Char) : Nat := cs.foldl (fun n c => n + c.utf8Size) 0

/-- An objection, and how many bytes are not read when it shows. -/
structure Stop where
  why : Objection
  unread : Nat
  deriving DecidableEq, Repr

namespace Stop

/-- A flaw that shows before characters. -/
def before (f : Flaw) (cs : List Char) : Stop := ⟨.flaw f, size cs⟩

/-- A flaw that shows at the first byte of characters. -/
def into (f : Flaw) (cs : List Char) : Stop := ⟨.flaw f, size cs - 1⟩

/-- The flaw that something comes next, or nothing. -/
def next (atEnd otherwise : Flaw) (cs : List Char) : Stop :=
  if cs.isEmpty then before atEnd cs else into otherwise cs

/-- A misfit that shows before characters. -/
def misfit (m : Misfit) (cs : List Char) : Stop := ⟨.misfit m, size cs⟩

end Stop

/-- The line of a place and the bytes before it on that line, both for the
place after the given number of bytes. -/
def lineAndColumn (place : Nat) : (line column : Nat) → List Char → Nat × Nat
  | line, column, [] => (line, column)
  | line, column, c :: rest =>
    if place < c.utf8Size then (line, column + place)
    else if c = '\n' then lineAndColumn (place - c.utf8Size) (line + 1) 0 rest
    else lineAndColumn (place - c.utf8Size) line (column + c.utf8Size) rest

/-- An objection with its place in a text. -/
def Stop.located (stop : Stop) (cs : List Char) : String :=
  let (line, column) := lineAndColumn (size cs - stop.unread) 1 0 cs
  stop.why.message ++ " at line " ++ toString line ++ " column " ++ toString column

end Json

end FolderGrants
