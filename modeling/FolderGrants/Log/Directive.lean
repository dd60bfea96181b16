import FolderGrants.Log.Criterion
import FolderGrants.Text.Alphanumeric
import FolderGrants.Text.Blank

/-!
# Directives of log filters

A directive is a target, a span in brackets and a level after an equals sign,
each of them optional: `folders[inner{tag=y}]=debug`.  A word alone is a level if
there is one of that name, and a target otherwise.  Without a level a directive
lets everything through that it applies to.

The parts are told apart in the text without the blanks around it, but each is
what stands in the text, blanks and all, at the bytes counted so.  A blank before
the directive therefore moves all its parts, and one after it belongs to the
level.
-/

namespace FolderGrants.Log

/-- A field that a span or an entry must have, perhaps with the value that it
must have. -/
structure Condition where
  name : String
  value : Option Criterion := none
  deriving DecidableEq, Repr

/-- One directive; without a level it lets nothing through. -/
structure Directive where
  level : Option Level
  target : Option String := none
  span : Option String := none
  field : Option Condition := none
  deriving DecidableEq, Repr

namespace Directive

/-- The words for limits. -/
def words : List (String × Option Level) :=
  [("off", none), ("error", some .error), ("warn", some .warn), ("info", some .info),
   ("debug", some .debug), ("trace", some .trace)]

/-- The limit that a word or a digit names. -/
def limit? (s : String) : Option (Option Level) :=
  match Criterion.natural? s.toList with
  | some n => (words.map (·.2))[n]?
  | none => words.lookup (s.map Char.toLower)

/-- The bytes of a piece of text. -/
def bytes (cs : List Char) : Nat := (String.ofList cs).utf8ByteSize

/-- What stands in a text between two bytes, if no character is cut. -/
def piece (s : String) (start stop : Nat) : Option String :=
  String.fromUTF8? (s.toUTF8.extract start stop)

/-- The level after an equals sign, before which there are `start` bytes; an empty
one lets everything through. -/
def readLevel (s : String) (start : Nat) : Option (Option Level) :=
  (piece s (start + 1) s.utf8ByteSize).bind fun word =>
    if word.isEmpty then some (some .trace) else limit? word

/-- Reads what may follow a span. -/
def readRest (s : String) (start : Nat) (d : Directive) : List Char → Option Directive
  | [] => some d
  | '=' :: _ => (readLevel s start).map fun l => { d with level := l }
  | _ => none

/-- The condition that a text is: a name, and what stands between the first
equals sign and the second. -/
def condition (s : String) : Option Condition :=
  let cs := s.toList
  let name := String.ofList (cs.takeWhile (· ≠ '='))
  match cs.dropWhile (· ≠ '=') with
  | [] => some { name }
  | _ :: rest =>
    (Criterion.ofText? (String.ofList (rest.takeWhile (· ≠ '=')))).map fun c =>
      { name, value := some c }

/-- Reads a span after its bracket, before which there are `start` bytes. -/
def readSpan (s : String) (start : Nat) (target : Option String) (cs : List Char) :
    Option Directive := do
  let stops (c : Char) : Bool := c = ']' ∨ c = '\x7b'
  let first := start + 1
  let last := first + bytes (cs.takeWhile (!stops ·))
  match cs.dropWhile (!stops ·) with
  | ']' :: rest =>
    let name ← piece s first last
    readRest s (last + 1) { level := some .trace, target, span := some name } rest
  | '\x7b' :: rest =>
    let name ← piece s first last
    let stop := last + 1 + bytes (rest.takeWhile (· ≠ '\x7d'))
    match rest.dropWhile (· ≠ '\x7d') with
    | '\x7d' :: ']' :: rest =>
      let text ← piece s (last + 1) stop
      if text.isEmpty then none
      else
        let field ← condition text
        let span := if name.isEmpty then none else some name
        readRest s (stop + 2) { level := some .trace, target, span, field := some field } rest
    | _ => none
  | _ => none

/-- Whether a target may begin with `c`. -/
def startsTarget (c : Char) : Bool :=
  Text.isAlphanumeric c || c = '-' || c = ':' || c = '_'

/-- A text without the blanks around it. -/
def trimmed (s : String) : List Char :=
  ((s.toList.dropWhile Text.isBlank).reverse.dropWhile Text.isBlank).reverse

/-- The directive that a text is. -/
def ofText? (s : String) : Option Directive := do
  let cs := trimmed s
  let stops (c : Char) : Bool := c = '=' ∨ c = '['
  let stop := bytes (cs.takeWhile (!stops ·))
  match cs.head?, cs.dropWhile (!stops ·) with
  | some '[', _ => readSpan s 0 none cs.tail
  | some c, rest =>
    if !startsTarget c then none
    else
      match rest with
      | '=' :: _ =>
        let target ← piece s 0 stop
        (readLevel s stop).map fun l => { level := l, target := some target }
      | '[' :: span =>
        let target ← piece s 0 stop
        readSpan s stop (some target) span
      | _ =>
        match limit? s with
        | some l => some { level := l }
        | none => some { level := some .trace, target := some s }
  | none, _ => none

/-- Whether a target belongs to those that the directive's begins. -/
def coversTarget (d : Directive) (t : String) : Bool :=
  d.target.all fun p => p.toList.isPrefixOf t.toList

/-- Whether the directive depends on spans. -/
def isDynamic (d : Directive) : Bool := d.span.isSome || d.field.isSome

/-- Whether the directive asks for the value of a field. -/
def hasValue (d : Directive) : Bool := d.field.any (·.value.isSome)

/-- Whether the directive applies to entries wherever they stand. -/
def isStatic (d : Directive) : Bool := d.span.isNone && !d.hasValue

/-- Whether the directive applies to the same as another. -/
def sameScope (d e : Directive) : Bool :=
  d.target == e.target && d.span == e.span && d.field == e.field

/-- How specific a target is: the longer, the more, and least if there is
none. -/
def reach (d : Directive) : Nat := d.target.elim 0 fun t => t.utf8ByteSize + 1

/-- Whether `d` gives way to the later `e`, of which the more specific counts:
the longer target, then the field, and of two fields the one whose name comes
last. -/
def yields (d e : Directive) : Bool :=
  d.reach < e.reach || (d.reach == e.reach &&
    match d.field, e.field with
    | none, _ => true
    | some _, none => false
    | some f, some g => f.name ≤ g.name)

/-- Whether the directive singles out a span by its name, target and fields. -/
def singlesOut (d : Directive) (s : Span) : Bool :=
  d.isDynamic && d.coversTarget s.target && d.span.all (· == s.name) &&
    d.field.all fun f => s.fields.any (·.1 == f.name)

/-- Whether the field has the value in a span that it must have. -/
def holdsIn (d : Directive) (s : Span) : Bool :=
  d.field.all fun f => f.value.all fun c => s.fields.any fun g => g.1 == f.name && c.accepts g.2

end Directive

end FolderGrants.Log
