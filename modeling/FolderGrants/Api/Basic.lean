import FolderGrants.Fault
import FolderGrants.Status.Basic

/-!
# Calls to the API server

What a pass and a review ask of the API server.  Nothing is assumed about how
it answers: a server is any set of functions that take the state of the world
to an answer and a new state, and every fault may happen at every call.
-/

namespace FolderGrants

/-- A step in a world of states `σ`, which gives a value or a fault. -/
abbrev Action (σ : Type) := ExceptT Fault (StateM σ)

namespace Action

variable {σ α : Type}

/-- Runs `a`; a fault that satisfies `p` counts as done. -/
def forgiving (p : Fault → Bool) (a : Action σ Unit) : Action σ Unit := fun s =>
  match a s with
  | (.ok (), s') => (.ok (), s')
  | (.error f, s') => (if p f then .ok () else .error f, s')

/-- Runs `a` and, at a fault that satisfies `p`, `b` instead. -/
def orTry (p : Fault → Bool) (a b : Action σ Unit) : Action σ Unit := fun s =>
  match a s with
  | (.ok (), s') => (.ok (), s')
  | (.error f, s') => if p f then b s' else (.error f, s')

/-- Runs `a` with every fault sent through `f`. -/
def mapFault (f : Fault → Fault) (a : Action σ α) : Action σ α := fun s =>
  match a s with
  | (.ok x, s') => (.ok x, s')
  | (.error e, s') => (.error (f e), s')

/-- A value or a fault that needs no call. -/
def ofExcept (e : Except Fault α) : Action σ α := fun s => (e, s)

end Action

/-- The calls of a pass. -/
structure Api (σ : Type) where
  /-- The bindings whose label names the given tree. -/
  list : String → Action σ (List Binding)
  /-- Whether a namespace exists. -/
  namespaceExists : String → Action σ Bool
  create : Binding → Action σ Unit
  replace : Binding → Action σ Unit
  delete : BindingKey → Action σ Unit
  /-- Writes the status of the tree of the given name. -/
  patchStatus : String → Status → Action σ Unit

/-- The calls of a review: changes that are tried out in a requester's name
and have no effect. -/
structure Trials (σ : Type) where
  create : Binding → Action σ Unit
  replace : Binding → Action σ Unit
  delete : BindingKey → Action σ Unit

end FolderGrants
