import FolderGrants.Decimal

/-!
# JSON values

The values that manifests, API answers and reviews are written in.  An
object keeps its members in the order in which they stand, repeated names
included; `Json.settled` puts them in the order of their names and lets the
last of a repeated name count.
-/

namespace FolderGrants

/-- A JSON value. -/
inductive Json where
  | null
  | bool (b : Bool)
  | int (n : Int)
  | decimal (d : Decimal)
  | str (s : String)
  | arr (items : List Json)
  | obj (members : List (String × Json))
  deriving BEq, Repr, Inhabited

namespace Json

/-- The value of the first member of that name in a list of members. -/
def lookup (name : String) : List (String × Json) → Option Json
  | [] => none
  | m :: rest => if m.1 = name then some m.2 else lookup name rest

/-- The value of a member of an object. -/
def member? : Json → String → Option Json
  | obj ms, name => lookup name ms
  | _, _ => none

/-- The value of a member, `null` if there is none. -/
def member (j : Json) (name : String) : Json := (j.member? name).getD null

/-- The text that a value is. -/
def text? : Json → Option String
  | str s => some s
  | _ => none

/-- The text that a value is, empty for any other value. -/
def textOr (j : Json) (default : String := "") : String := j.text?.getD default

/-- The items of an array, none for any other value. -/
def items : Json → List Json
  | arr l => l
  | _ => []

/-- The members of an object, none for any other value. -/
def members : Json → List (String × Json)
  | obj l => l
  | _ => []

/-- Whether a value is `true`. -/
def isTrue : Json → Bool
  | bool b => b
  | _ => false

/-- Whether a value is `null`. -/
def isNull : Json → Bool
  | null => true
  | _ => false

mutual

/-- How many arrays and objects stand around the innermost value. -/
def depth : Json → Nat
  | arr l => depthItems l + 1
  | obj l => depthMembers l + 1
  | _ => 0

def depthItems : List Json → Nat
  | [] => 0
  | j :: rest => max j.depth (depthItems rest)

def depthMembers : List (String × Json) → Nat
  | [] => 0
  | (_, j) :: rest => max j.depth (depthMembers rest)

end

/-- Puts a member among members that stand in the order of their names; one
of the same name gives way. -/
def placeMember (name : String) (value : Json) :
    List (String × Json) → List (String × Json)
  | [] => [(name, value)]
  | m :: rest =>
    match compare name m.1 with
    | .lt => (name, value) :: m :: rest
    | .eq => (name, value) :: rest
    | .gt => m :: placeMember name value rest

mutual

/-- The value with all members in the order of their names, the last one of
each name. -/
def settled : Json → Json
  | arr l => arr (settledItems l)
  | obj l => obj (settledMembers l [])
  | j => j

def settledItems : List Json → List Json
  | [] => []
  | j :: rest => j.settled :: settledItems rest

def settledMembers : List (String × Json) → List (String × Json) → List (String × Json)
  | [], done => done
  | (name, j) :: rest, done => settledMembers rest (placeMember name j.settled done)

end

/-- A member that is left out when there is no value. -/
def optional {α : Type} (name : String) (f : α → Json) : Option α → List (String × Json)
  | none => []
  | some a => [(name, f a)]

/-- A member with a list, left out when the list is empty. -/
def unlessEmpty {α : Type} (name : String) (f : α → Json) (l : List α) : List (String × Json) :=
  if l.isEmpty then [] else [(name, arr (l.map f))]

end Json

end FolderGrants
