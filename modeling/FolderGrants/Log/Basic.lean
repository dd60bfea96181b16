import FolderGrants.Json.Basic
import FolderGrants.Text.Quoted

/-!
# Log entries

An entry says what happened, how grave it is and in which part of the program;
it may stand within spans, which say what the program was doing.  Entries are
written as one JSON object a line, which names the innermost span, or as lines
of plain text, which name all of them.
-/

namespace FolderGrants.Log

/-- How grave an entry is. -/
inductive Level where
  | error
  | warn
  | info
  | debug
  | trace
  deriving DecidableEq, Repr, Inhabited

namespace Level

/-- The graver a level, the less its rank. -/
def rank : Level → Nat
  | error => 1
  | warn => 2
  | info => 3
  | debug => 4
  | trace => 5

/-- What a level is called. -/
def word : Level → String
  | error => "ERROR"
  | warn => "WARN"
  | info => "INFO"
  | debug => "DEBUG"
  | trace => "TRACE"

end Level

/-- The value of a field. -/
inductive Field where
  | int (n : Int)
  | bool (b : Bool)
  | str (s : String)
  /-- A failure, and what it comes from, the nearest first. -/
  | failure (s : String) (sources : List String)
  deriving DecidableEq, Repr

/-- Values by name, in order. -/
abbrev Fields := List (String × Field)

/-- Something the program is doing. -/
structure Span where
  name : String
  target : String
  level : Level
  fields : Fields := []
  deriving DecidableEq, Repr

/-- Something that happened, within spans, the outermost first. -/
structure Entry where
  target : String
  level : Level
  message : String
  fields : Fields := []
  spans : List Span := []
  deriving DecidableEq, Repr

/-- How entries are written. -/
inductive Format where
  | json
  | text
  deriving DecidableEq, Repr, Inhabited

namespace Field

/-- A value as JSON. -/
def encode : Field → Json
  | int n => .int n
  | bool b => .bool b
  | str s => .str s
  | failure s _ => .str s

/-- A value in plain text. -/
def text : Field → String
  | int n => toString n
  | bool b => if b then "true" else "false"
  | str s => Text.quoted s
  | failure s _ => s

/-- A field in plain text; what a failure comes from is a field of its own. -/
def shown (name : String) (f : Field) : String :=
  name ++ "=" ++ f.text ++
    match f with
    | failure _ (s :: rest) =>
      " " ++ name ++ ".sources=[" ++ ", ".intercalate (s :: rest) ++ "]"
    | _ => ""

end Field

/-- Fields as members of an object. -/
def Fields.encode (fs : Fields) : List (String × Json) := fs.map fun f => (f.1, f.2.encode)

/-- Fields in plain text. -/
def Fields.text (fs : Fields) : String := " ".intercalate (fs.map fun f => f.2.shown f.1)

/-- A span in plain text. -/
def Span.text (s : Span) : String :=
  if s.fields.isEmpty then s.name else s.name ++ "\x7b" ++ s.fields.text ++ "\x7d"

/-- A span as JSON. -/
def Span.encode (s : Span) : Json := .obj (s.fields.encode ++ [("name", .str s.name)])

namespace Entry

/-- The names of an entry's fields, of which the message is one. -/
def fieldNames (e : Entry) : List String := "message" :: e.fields.map (·.1)

/-- An entry as JSON, with the time if there is one. -/
def encode (time : Option String) (e : Entry) : Json :=
  .obj ((time.toList.map fun t => ("timestamp", Json.str t)) ++
    [("level", .str e.level.word),
      ("fields", .obj (("message", .str e.message) :: e.fields.encode)),
      ("target", .str e.target)] ++
    (e.spans.getLast?.toList.map fun s => ("span", s.encode)))

/-- The spans of an entry in plain text. -/
def spansText (e : Entry) : String :=
  if e.spans.isEmpty then "" else ":".intercalate (e.spans.map Span.text) ++ ": "

/-- An entry in plain text. -/
def line (time : String) (e : Entry) : String :=
  time ++ " " ++ "".pushn ' ' (5 - e.level.word.length) ++ e.level.word ++ " " ++ e.spansText ++
    e.target ++ ": " ++ e.message ++ (if e.fields.isEmpty then "" else " " ++ e.fields.text)

end Entry

end FolderGrants.Log
