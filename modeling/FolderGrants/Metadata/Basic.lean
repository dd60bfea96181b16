import FolderGrants.Instant.Basic
import FolderGrants.Json.Basic
import FolderGrants.OrderedMap.Basic

/-!
# Object metadata

What every stored object carries: its name, its labels and annotations, its
owners and the server's bookkeeping.  Every field may be absent.
-/

namespace FolderGrants

/-- Texts by name, listed in the order of the names. -/
abbrev Labels := OrderedMap String String

/-- A reference to the object that another one belongs to. -/
structure Owner where
  apiVersion : String
  kind : String
  name : String
  uid : String
  controller : Option Bool := none
  blockOwnerDeletion : Option Bool := none
  deriving DecidableEq, Repr, Inhabited

/-- Who last wrote which fields of an object. -/
structure FieldClaim where
  apiVersion : Option String := none
  fieldsType : Option String := none
  fields : Option Json := none
  manager : Option String := none
  operation : Option String := none
  subresource : Option String := none
  time : Option Instant := none
  deriving BEq, Repr, Inhabited

/-- The metadata of an object. -/
structure Metadata where
  annotations : Option Labels := none
  creationTimestamp : Option Instant := none
  deletionGracePeriodSeconds : Option Int := none
  deletionTimestamp : Option Instant := none
  finalizers : Option (List String) := none
  generateName : Option String := none
  generation : Option Int := none
  labels : Option Labels := none
  managedFields : Option (List FieldClaim) := none
  name : Option String := none
  ns : Option String := none
  owners : Option (List Owner) := none
  resourceVersion : Option String := none
  selfLink : Option String := none
  uid : Option String := none
  deriving Inhabited

namespace Metadata

/-- The name, else the stem of a name to be generated, else nothing. -/
def anyName (m : Metadata) : String := (m.name.or m.generateName).getD ""

/-- The labels, none if they are absent. -/
def labelMap (m : Metadata) : Labels := m.labels.getD .empty

/-- The owner that controls the object. -/
def controller? (m : Metadata) : Option Owner :=
  (m.owners.getD []).find? fun o => o.controller == some true

end Metadata

end FolderGrants
