import FolderGrants.Api.Basic
import FolderGrants.Change.Basic

/-!
# Making changes

Changes are made one at a time, in order, and the first fault ends the pass.
A binding whose namespace does not exist is passed over, since the namespace
will start another pass when it appears; a binding that is already gone
counts as deleted.
-/

namespace FolderGrants

/-- What came of a change. -/
inductive Outcome where
  | created
  | updated
  | deleted
  | skipped
  deriving DecidableEq, Repr

/-- How many changes came out in each way. -/
structure Summary where
  created : Nat := 0
  updated : Nat := 0
  deleted : Nat := 0
  skipped : Nat := 0
  deriving DecidableEq, Repr, Inhabited

/-- Counts one more outcome. -/
def Summary.count (s : Summary) : Outcome → Summary
  | .created => { s with created := s.created + 1 }
  | .updated => { s with updated := s.updated + 1 }
  | .deleted => { s with deleted := s.deleted + 1 }
  | .skipped => { s with skipped := s.skipped + 1 }

namespace Change

/-- The fault of a change that lacks a binding it needs. -/
def incomplete (context : String) (c : Change) : Fault :=
  .internal context (c.text ++ " is missing its RoleBinding")

variable {σ : Type}

/-- Makes a change. -/
def apply (api : Api σ) (c : Change) : Action σ Outcome :=
  match c.kind, c.existing, c.desired with
  | .create, _, some desired => do
    if ← api.namespaceExists c.ns then
      api.create desired
      return .created
    else return .skipped
  | .update, some existing, some desired => do
    api.replace (existing.refreshed desired)
    return .updated
  | .delete, _, _ => do
    (api.delete ⟨c.ns, c.bindingName⟩).forgiving Fault.isNotFound
    return .deleted
  | _, _, _ => throw (c.incomplete "executor")

/-- Makes changes in order, up to the first fault. -/
def applyAll (api : Api σ) : List Change → Summary → Action σ Summary
  | [], s => return s
  | c :: rest, s => do
    let o ← c.apply api
    applyAll api rest (s.count o)

end Change

end FolderGrants
