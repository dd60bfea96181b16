import FolderGrants.Api.Basic
import FolderGrants.Change.Apply
import FolderGrants.Review.Requester

/-!
# Who may write a tree

A tree grants whatever its templates say, so nobody may write one that hands
out access they could not grant themselves.  Every change to role bindings
that a write implies is tried out in the requester's name; the first trial
that is refused refuses the write.

The creation of a binding is tried out under a name of its own.  The renewal
of a binding that is not there is tried out as a creation.  A deletion that
finds nothing was allowed, since the server asks for permission before it
looks.  Trusted identities delete trees without trials.
-/

namespace FolderGrants

/-- What a review relies on: whom it trusts, how it acts in a requester's
name, and a clock. -/
structure Authority (σ : Type) where
  trusted : List String
  /-- The calls that act as the requester. -/
  actAs : Requester → Action σ (Trials σ)
  /-- Nanoseconds since the start of 1970. -/
  clock : StateM σ Int

namespace Authority

/-- The service account of the controller. -/
def controllerIdentity : String :=
  "system:serviceaccount:folders-system:folder-controller-manager"

/-- The identities that are trusted unless others are named. -/
def defaultTrusted : List String := [controllerIdentity, "system:admin"]

variable {σ : Type}

/-- Whether a user deletes trees without trials. -/
def trusts (a : Authority σ) (username : String) : Bool := a.trusted.contains username

end Authority

namespace Fault

/-- What the server said, or the fault in words if it said nothing. -/
def reported : Fault → String
  | request (.refused r) => r.message
  | f => f.message

/-- The refusal of a write because of the change to one binding. -/
def escalationOf (kind : ChangeKind) (key : BindingKey) (template : String) (why : Fault) :
    Fault :=
  escalation kind.text key.ns key.name template why.reported

end Fault

/-- A binding as its creation is tried out: under the trial name, and without
what the server assigns. -/
def Binding.forTrial (b : Binding) (tree template : String) (nanos : Int) : Binding :=
  { b with
    metadata :=
      { b.metadata with
        name := some (Binding.trialNameFor tree template nanos)
        resourceVersion := none
        uid := none } }

namespace Authority

variable {σ : Type}

/-- Tries out the creation of a binding. -/
def tryCreate (a : Authority σ) (trials : Trials σ) (tree template : String) (b : Binding) :
    Action σ Unit := do
  let nanos ← a.clock
  trials.create (b.forTrial tree template nanos)

/-- Tries out a deletion. -/
def tryDelete (trials : Trials σ) (key : BindingKey) : Action σ Unit :=
  (trials.delete key).forgiving Fault.isNotFound

/-- Tries out a change. -/
def tryChange (a : Authority σ) (trials : Trials σ) (tree : String) (c : Change) :
    Action σ Unit :=
  match c.kind, c.existing, c.desired with
  | .create, _, some desired => a.tryCreate trials tree c.template desired
  | .update, some existing, some desired =>
    let updated := existing.refreshed desired
    (trials.replace updated).orTry Fault.isNotFound (a.tryCreate trials tree c.template updated)
  | .delete, _, _ => tryDelete trials ⟨c.ns, c.bindingName⟩
  | _, _, _ => throw (c.incomplete "webhook")

/-- Tries out changes in order; the first refusal names its change. -/
def tryAll (a : Authority σ) (trials : Trials σ) (tree : String) : List Change → Action σ Unit
  | [] => return ()
  | c :: rest => do
    (a.tryChange trials tree c).mapFault (.escalationOf c.kind ⟨c.ns, c.bindingName⟩ c.template)
    a.tryAll trials tree rest

/-- Whether the requester may create a tree, or put `new` in place of `old`. -/
def checkWrite (a : Authority σ) (r : Requester) (old : Option FolderTree) (new : FolderTree) :
    Action σ Unit := do
  let changes ← Action.ofExcept ((FolderTree.changesFrom old new).mapError Fault.conflict)
  if changes.isEmpty then return ()
  else
    let trials ← a.actAs r
    a.tryAll trials new.name changes

/-- Tries out the deletion of bindings in order. -/
def tryDeletions (trials : Trials σ) : List (BindingKey × Grant) → Action σ Unit
  | [] => return ()
  | (key, g) :: rest => do
    (tryDelete trials key).mapFault (.escalationOf .delete key g.template.name)
    tryDeletions trials rest

/-- Whether the requester may delete a tree. -/
def checkDelete (a : Authority σ) (r : Requester) (t : FolderTree) : Action σ Unit := do
  if a.trusts r.username then return ()
  else
    let desired ← Action.ofExcept (t.unownedDesired.mapError Fault.conflict)
    if desired.isEmpty then return ()
    else
      let trials ← a.actAs r
      tryDeletions trials desired.entries

end Authority

end FolderGrants
