import FolderGrants.Change.Apply

/-!
# Passes

A pass brings the role bindings of the cluster in line with one tree: it
works out what the tree requires, lists what carries the tree's label, and
makes the changes in between.  How it went is then recorded in the status of
the tree, unless the status says so already.  A tree that is being deleted is
left alone, as its bindings are collected with it.
-/

namespace FolderGrants

/-- When a tree is looked at again after a pass. -/
inductive Followup where
  /-- When something it depends on changes. -/
  | awaitChange
  /-- After that many seconds, if nothing changes before. -/
  | requeue (seconds : Nat)
  deriving DecidableEq, Repr

/-- What follows a fault. -/
def Fault.followup (f : Fault) : Followup :=
  if f.isRetryable then .requeue 30 else .awaitChange

namespace Condition

/-- The message of the condition that a pass succeeded. -/
def readyMessage : String := "FolderTree processed successfully"

/-- The condition that a pass succeeded. -/
def ofSuccess (now : Instant) : Condition := ⟨ready, .yes, ready, readyMessage, now⟩

/-- The condition that a pass failed. -/
def ofFault (now : Instant) (f : Fault) : Condition :=
  ⟨processingFailed, .yes, processingFailed, f.message, now⟩

end Condition

namespace FolderTree

variable {σ : Type}

/-- Brings the bindings of the cluster in line with the tree. -/
def syncBindings (api : Api σ) (t : FolderTree) : Action σ Summary := do
  let desired ← Action.ofExcept (t.ownedDesired.mapError Fault.conflict)
  let live ← api.list t.name
  Change.applyAll api (desired.changesFrom (.ofBindings live)) {}

/-- The status that records `c` in place of the condition of type `replaced`. -/
def statusWith (t : FolderTree) (c : Condition) (replaced : String) : Status where
  conditions := Condition.set t.currentStatus.conditions c [replaced]
  processedGeneration := t.metadata.generation.getD 0

/-- Records a condition, unless the stored status is the same already. -/
def recordCondition (api : Api σ) (t : FolderTree) (c : Condition) (replaced : String) :
    Action σ Unit :=
  let status := t.statusWith c replaced
  if t.status = some status then return () else api.patchStatus t.name status

/-- One pass over a tree at the time `now`. -/
def reconcile (api : Api σ) (now : Instant) (t : FolderTree) : Action σ Followup := fun s =>
  if t.metadata.deletionTimestamp.isSome then (.ok .awaitChange, s)
  else
    match t.syncBindings api s with
    | (.ok _, s) =>
      match t.recordCondition api (.ofSuccess now) Condition.processingFailed s with
      | (.ok (), s) => (.ok .awaitChange, s)
      | (.error f, s) => (.error f, s)
    | (.error f, s) =>
      let (_, s) := t.recordCondition api (.ofFault now f) Condition.ready s
      (.error f, s)

end FolderTree

end FolderGrants
