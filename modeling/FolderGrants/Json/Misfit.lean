import FolderGrants.Instant.Reader
import FolderGrants.Json.Basic
import FolderGrants.Text.Quoted

/-!
# Why a JSON value does not fit

Reading a record out of a JSON value fails for one of a few causes, each of
which remembers what was found and what was wanted.
-/

namespace FolderGrants

/-- What kind of value was found, with the value itself when it is small. -/
inductive Json.Shape where
  | null
  | bool (b : Bool)
  | int (n : Int)
  | decimal (d : Decimal)
  | str (s : String)
  | sequence
  | map
  deriving DecidableEq, Repr

namespace Json

/-- What kind of value this is. -/
def shape : Json → Shape
  | null => .null
  | bool b => .bool b
  | int n => .int n
  | decimal d => .decimal d
  | str s => .str s
  | arr _ => .sequence
  | obj _ => .map

/-- The wording of a found value. -/
def Shape.message : Shape → String
  | null => "null"
  | bool b => "boolean \x60" ++ (if b then "true" else "false") ++ "\x60"
  | int n => "integer \x60" ++ toString n ++ "\x60"
  | decimal d => "floating point \x60" ++ d.text ++ "\x60"
  | str s => "string " ++ Text.quoted s
  | sequence => "sequence"
  | map => "map"

end Json

/-- Why a JSON value does not fit what is read from it. -/
inductive Misfit where
  /-- The value is of another kind. -/
  | wrongType (found : Json.Shape) (wanted : String)
  /-- The value is of the right kind but not allowed. -/
  | wrongValue (found : Json.Shape) (wanted : String)
  /-- A record written as a list has the wrong number of items. -/
  | wrongLength (found : Nat) (wanted : String)
  /-- A required member is absent. -/
  | missing (field : String)
  /-- A member stands twice. -/
  | duplicate (field : String)
  /-- A text is none of the allowed ones. -/
  | unknownVariant (found : String) (known : List String)
  /-- A text is no instant. -/
  | badInstant (fault : Instant.Fault)
  deriving DecidableEq, Repr

namespace Misfit

def ticked (s : String) : String := "\x60" ++ s ++ "\x60"

/-- The list of allowed texts. -/
def choices (known : List String) : String :=
  match known with
  | [] => "there are no variants"
  | [a] => "expected " ++ ticked a
  | [a, b] => "expected " ++ ticked a ++ " or " ++ ticked b
  | _ => "expected one of " ++ ", ".intercalate (known.map ticked)

/-- The wording of a misfit. -/
def message : Misfit → String
  | wrongType found wanted => "invalid type: " ++ found.message ++ ", expected " ++ wanted
  | wrongValue found wanted => "invalid value: " ++ found.message ++ ", expected " ++ wanted
  | wrongLength found wanted => "invalid length " ++ toString found ++ ", expected " ++ wanted
  | missing field => "missing field " ++ ticked field
  | duplicate field => "duplicate field " ++ ticked field
  | unknownVariant found known => "unknown variant " ++ ticked found ++ ", " ++ choices known
  | badInstant fault => fault.message

/-- A value of another kind than the wanted one. -/
def ofJson (found : Json) (wanted : String) : Misfit := wrongType found.shape wanted

/-- A list that is too short for the fields of a record. -/
def tooShort (found : Nat) (record : String) (fields : Nat) : Misfit :=
  let count := if fields = 1 then "1 element" else toString fields ++ " elements"
  wrongLength found ("struct " ++ record ++ " with " ++ count)

end Misfit

end FolderGrants
