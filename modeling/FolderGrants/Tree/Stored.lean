import FolderGrants.Metadata.Wire
import FolderGrants.Status.Wire
import FolderGrants.Tree.Wire

/-!
# Stored trees

A folder tree as the API server stores it: metadata, specification and, once
it has been processed, a status.
-/

namespace FolderGrants

/-- A folder tree as an object of the API server. -/
structure FolderTree where
  metadata : Metadata := {}
  spec : Spec := {}
  status : Option Status := none
  deriving Inhabited

namespace FolderTree

/-- The group of the objects. -/
def group : String := "rbac.kubevirt.io"

/-- The group and version of the objects. -/
def apiVersion : String := group ++ "/v1alpha1"

/-- The kind of the objects. -/
def kind : String := "FolderTree"

/-- The name of a tree. -/
def name (t : FolderTree) : String := t.metadata.anyName

/-- The status a pass starts from. -/
def currentStatus (t : FolderTree) : Status := t.status.getD {}

/-- The reference that makes a tree the controlling owner of an object; none
before the tree has both a name and an identity. -/
def controllerOwner? (t : FolderTree) : Option Owner := do
  let name ← t.metadata.name
  let uid ← t.metadata.uid
  return { apiVersion, kind, name, uid, controller := some true }

/-- A tree as JSON; `status` writes the status. -/
def encodeWith (status : Status → Json) (t : FolderTree) : Json :=
  .obj ([("apiVersion", .str apiVersion), ("kind", .str kind), ("metadata", t.metadata.encode),
    ("spec", t.spec.encode)] ++ Json.optional "status" status t.status)

/-- A tree as JSON. -/
def encode (t : FolderTree) : Json := t.encodeWith Status.encode

/-- Reads a tree; its kind is not looked at. -/
def decode : Decoder FolderTree :=
  .declared "FolderTree" <|
    FolderTree.mk <$> .required "metadata" Metadata.decode <*> .required "spec" Spec.decode <*>
      .optionalInPlace "status" Status.decode

end FolderTree

end FolderGrants
