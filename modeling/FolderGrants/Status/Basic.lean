import FolderGrants.Instant.Basic

/-!
# Conditions and status

The status of a tree is a list of conditions and the generation that was
processed last.  A condition is identified by its type.  Setting one drops
the conditions it replaces, keeps a condition that is already in the wanted
state together with its transition time, and otherwise overwrites it where it
stands or puts it last.
-/

namespace FolderGrants

/-- Whether a condition holds. -/
inductive Truth where
  | yes
  | no
  | unknown
  deriving DecidableEq, Repr, Inhabited

/-- How a condition's truth is written. -/
def Truth.text : Truth → String
  | yes => "True"
  | no => "False"
  | unknown => "Unknown"

/-- A statement about a tree and when it last changed. -/
structure Condition where
  type : String
  truth : Truth
  reason : String
  message : String
  lastTransition : Instant
  deriving DecidableEq, Repr, Inhabited

namespace Condition

/-- The type of the condition that a pass succeeded. -/
def ready : String := "Ready"

/-- The type of the condition that a pass failed. -/
def processingFailed : String := "ProcessingFailed"

/-- Whether two conditions agree in everything but the time. -/
def sameState (a b : Condition) : Bool :=
  a.type == b.type && a.truth == b.truth && a.reason == b.reason && a.message == b.message

/-- Puts `c` in the place of the first condition of its type, or last. -/
def put (c : Condition) : List Condition → List Condition
  | [] => [c]
  | d :: rest =>
    if d.type = c.type then (if d.sameState c then d else c) :: rest else d :: put c rest

/-- Sets `c` and drops every condition of a type in `replaced`. -/
def set (conditions : List Condition) (c : Condition) (replaced : List String) :
    List Condition :=
  put c (conditions.filter fun d => !replaced.contains d.type)

end Condition

/-- The conditions of a tree and the generation processed last. -/
structure Status where
  conditions : List Condition := []
  processedGeneration : Int := 0
  deriving DecidableEq, Repr, Inhabited

/-- The first condition of a type. -/
def Status.condition? (s : Status) (type : String) : Option Condition :=
  s.conditions.find? fun c => c.type == type

end FolderGrants
