import FolderGrants.Review.Authority

/-!
# Reviews

The API server asks for a review before it stores or deletes a tree.  Writes
to the status, and requests without a user name, are let through; of all
others only what the requester may do.  Whatever goes wrong on the way is a
denial.
-/

namespace FolderGrants

/-- What is asked for. -/
inductive Verb where
  | create
  | update
  | delete
  | connect
  deriving DecidableEq, Repr, Inhabited

/-- An object as a review carries it: its metadata and whatever else it has. -/
structure LooseObject where
  metadata : Metadata := {}
  rest : List (String × Json) := []
  deriving Inhabited

/-- A request for a review. -/
structure ReviewRequest where
  uid : String
  subresource : Option String := none
  verb : Verb
  user : UserInfo := {}
  object : Option LooseObject := none
  oldObject : Option LooseObject := none
  deriving Inhabited

/-- The answer to a request. -/
structure ReviewAnswer where
  uid : String
  /-- Why the request is denied; absent if it is allowed. -/
  denial : Option String
  deriving DecidableEq, Repr

namespace ReviewAnswer

/-- Whether the request is allowed. -/
def allowed (a : ReviewAnswer) : Bool := a.denial.isNone

end ReviewAnswer

/-- The tree that an object is. -/
def LooseObject.tree? (o : LooseObject) : Except Misfit FolderTree :=
  FolderTree.decode.ofJson (Json.settled (.obj (("metadata", o.metadata.encode) :: o.rest)))

namespace ReviewRequest

variable {σ : Type}

/-- The tree in an object of the request; `field` names the object. -/
def tree (field : String) : Option LooseObject → Except Fault FolderTree
  | none => .error (.invalidRequest ("admission request is missing " ++ field))
  | some o => o.tree?.mapError fun m =>
      .malformed (some FolderTree.kind)
        ("failed to parse this DynamicObject into a Resource: " ++ m.message)

/-- Whether the requester may do what is asked for. -/
def permit (a : Authority σ) (r : Requester) (q : ReviewRequest) : Action σ Unit :=
  match q.verb with
  | .create => do
    let new ← Action.ofExcept (tree "object" q.object)
    a.checkWrite r none new
  | .update => do
    let old ← Action.ofExcept (tree "oldObject" q.oldObject)
    let new ← Action.ofExcept (tree "object" q.object)
    a.checkWrite r (some old) new
  | .delete => do
    let old ← Action.ofExcept (tree "oldObject" q.oldObject)
    a.checkDelete r old
  | .connect => return ()

/-- The answer to a request. -/
def review (a : Authority σ) (q : ReviewRequest) : StateM σ ReviewAnswer := fun s =>
  if q.subresource = some "status" then (⟨q.uid, none⟩, s)
  else
    match q.user.requester? with
    | none => (⟨q.uid, none⟩, s)
    | some r =>
      match q.permit a r s with
      | (.ok (), s) => (⟨q.uid, none⟩, s)
      | (.error f, s) => (⟨q.uid, some f.message⟩, s)

end ReviewRequest

end FolderGrants
