import FolderGrants.Pass.Basic

/-!
# Courses

A pass, call by call.  A course has come to its end, with a value or a fault, or it
is about to make a call and goes on from the answer.  What happens between two of
its calls is left open: another pass may make calls of its own there.  Run without
a pause, the course of a pass is the pass.
-/

namespace FolderGrants

/-- The calls of a pass that are about bindings, by the type of their answers. -/
inductive Query : Type → Type
  | list (tree : String) : Query (List Binding)
  | namespaceExists (ns : String) : Query Bool
  | create (b : Binding) : Query Unit
  | replace (b : Binding) : Query Unit
  | delete (key : BindingKey) : Query Unit

/-- Makes a call. -/
def Api.answer {σ : Type} (api : Api σ) : {β : Type} → Query β → Action σ β
  | _, .list tree => api.list tree
  | _, .namespaceExists ns => api.namespaceExists ns
  | _, .create b => api.create b
  | _, .replace b => api.replace b
  | _, .delete key => api.delete key

/-- Calls to be made one after the other, each in view of the answers so far. -/
inductive Course (α : Type) : Type 1
  | ended (x : Except Fault α)
  | call {β : Type} (q : Query β) (next : Except Fault β → Course α)

namespace Course

variable {σ α β : Type}

/-- Goes on from a value; a fault is the end. -/
def bind : Course α → (α → Course β) → Course β
  | ended (.ok x), f => f x
  | ended (.error e), _ => ended (.error e)
  | call q next, f => call q fun a => (next a).bind f

instance : Monad Course where
  pure x := ended (.ok x)
  bind := bind

/-- A single call. -/
def ask (q : Query β) : Course β := call q ended

/-- A fault that satisfies `p` at the end counts as done. -/
def forgiving (p : Fault → Bool) : Course Unit → Course Unit
  | ended (.ok ()) => ended (.ok ())
  | ended (.error f) => ended (if p f then .ok () else .error f)
  | call q next => call q fun a => (next a).forgiving p

/-- Makes all calls without a pause. -/
def run (api : Api σ) : Course α → Action σ α
  | ended x => Action.ofExcept x
  | call q next => fun s => (next (api.answer q s).1).run api (api.answer q s).2

end Course

namespace Change

/-- A change, call by call. -/
def course (c : Change) : Course Outcome :=
  match c.kind, c.existing, c.desired with
  | .create, _, some desired => do
    if ← .ask (.namespaceExists c.ns) then
      .ask (.create desired)
      return .created
    else return .skipped
  | .update, some existing, some desired => do
    .ask (.replace (existing.refreshed desired))
    return .updated
  | .delete, _, _ => do
    (Course.ask (.delete ⟨c.ns, c.bindingName⟩)).forgiving Fault.isNotFound
    return .deleted
  | _, _, _ => .ended (.error (c.incomplete "executor"))

/-- Changes in order, call by call, up to the first fault. -/
def courseAll : List Change → Summary → Course Summary
  | [], s => return s
  | c :: rest, s => do
    let o ← c.course
    courseAll rest (s.count o)

end Change

namespace FolderTree

/-- Bringing the bindings in line with a tree, call by call. -/
def course (t : FolderTree) : Course Summary := do
  let desired ← .ended (t.ownedDesired.mapError Fault.conflict)
  let live ← .ask (.list t.name)
  Change.courseAll (desired.changesFrom (.ofBindings live)) {}

end FolderTree

end FolderGrants
