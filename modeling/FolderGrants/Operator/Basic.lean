import FolderGrants.Api.Server
import FolderGrants.Cluster.Basic
import FolderGrants.Pass.Basic

/-!
# The operator

The operator keeps the trees of a cluster in step with their role bindings.
It makes no rounds: a pass over a tree is due when something it depends on
has changed.

* The tree itself was applied, or its status was written.
* A managed role binding that the tree owns was written or removed.
* A namespace came or went: that concerns every tree, since a binding may have
  been passed over for want of its namespace.

At most one pass is due for each tree, and the earlier date counts.  A pass
that ends in a retryable fault is due again after a while; any other pass
waits for a change.  Time is counted in whole seconds and moves from one pass
to the next.
-/

namespace FolderGrants

/-- Requests that the server refuses: those of a method whose path contains a
text. -/
structure RefusalRule where
  method : String
  path : String
  code : Nat
  message : String
  reason : String
  deriving Repr

namespace RefusalRule

/-- Whether `w` stands anywhere in a text. -/
def occursIn (w : List Char) : List Char → Bool
  | [] => w.isEmpty
  | c :: rest => w.isPrefixOf (c :: rest) || occursIn w rest

/-- Whether a request is refused. -/
def fits (r : RefusalRule) (q : Http.Request) : Bool :=
  r.method == q.method && occursIn r.path.toList q.target.path.toList

/-- What the request is answered. -/
def answer (r : RefusalRule) : Http.Response :=
  ⟨r.code, (Refusal.encode ⟨"Failure", r.message, r.reason, r.code⟩).print⟩

end RefusalRule

namespace Binding

/-- Whether a binding says that it is managed here. -/
def isManaged (b : Binding) : Bool := b.labels.get? managedByLabel == some manager

/-- The trees that own a binding, by their names. -/
def owningTrees (b : Binding) : List String :=
  ((b.metadata.owners.getD []).filter fun o =>
    o.apiVersion == FolderTree.apiVersion && o.kind == FolderTree.kind).map (·.name)

/-- The trees to which it matters that a binding is written or removed. -/
def watchers (b : Binding) : List String := if b.isManaged then b.owningTrees else []

/-- Whether a binding belongs to the object of that identity. -/
def isOwnedBy (b : Binding) (uid : String) : Bool :=
  (b.metadata.owners.getD []).any fun o => o.uid == uid

end Binding

/-- A cluster, the passes that are due, and the requests that fail. -/
structure Operator where
  cluster : Cluster := {}
  /-- Seconds since the start. -/
  now : Nat := 0
  /-- When the next pass over a tree is due. -/
  due : OrderedMap String Nat := .empty
  rules : List RefusalRule := []
  deriving Inhabited

namespace Operator

/-- Makes a pass due at the given time, if none is due before. -/
def schedule (o : Operator) (time : Nat) (tree : String) : Operator :=
  { o with due := o.due.insert tree (((o.due.get? tree).map (min · time)).getD time) }

/-- Makes passes due now. -/
def wake (o : Operator) (trees : List String) : Operator :=
  trees.foldl (fun o t => o.schedule o.now t) o

/-- Makes a pass over every stored tree due now. -/
def wakeAll (o : Operator) : Operator := o.wake o.cluster.trees.keys

/-- The operator when it starts: exactly the stored trees get a pass. -/
def start (o : Operator) : Operator := { o with due := .empty }.wakeAll

/-- Changes the cluster and wakes the trees that this concerns. -/
def change (o : Operator) (f : Cluster → Cluster) (trees : List String) : Operator :=
  { o with cluster := f o.cluster }.wake trees

/-- The trees to which it matters that the binding with that key goes. -/
def watchersOf (o : Operator) (key : BindingKey) : List String :=
  ((o.cluster.bindings.get? key).map Binding.watchers).getD []

/-! ### What others change -/

/-- Stores a tree. -/
def applyTree (o : Operator) (t : FolderTree) : Operator := o.change (·.putTree t) [t.name]

/-- Stores a role binding. -/
def putBinding (o : Operator) (b : Binding) : Operator :=
  o.change (·.putBinding b) b.watchers

/-- Removes a role binding. -/
def removeBinding (o : Operator) (key : BindingKey) : Operator :=
  o.change (·.removeBinding key) (o.watchersOf key)

/-- Removes a tree together with the bindings that belong to it. -/
def deleteTree (o : Operator) (name : String) : Operator :=
  let uid := (o.cluster.trees.get? name).bind (·.metadata.uid)
  let owned := o.cluster.bindings.filter fun _ b => uid.any b.isOwnedBy
  owned.keys.foldl removeBinding (o.change (·.removeTree name) [])

/-- Adds a namespace. -/
def addNamespace (o : Operator) (ns : String) : Operator :=
  (o.change (·.addNamespace ns) []).wakeAll

/-- Removes a namespace together with its bindings. -/
def removeNamespace (o : Operator) (ns : String) : Operator :=
  if o.cluster.hasNamespace ns then (o.change (·.removeNamespace ns) []).wakeAll
  else o.change (·.removeNamespace ns) []

/-! ### Passes -/

/-- What the server calls a binding. -/
def titleOf (key : BindingKey) : String := "rolebindings \"" ++ key.name ++ "\""

/-- The refusal of a request for which the server has no such place. -/
def noSuchPlace : Refusal :=
  ⟨"Failure", "the server could not find the requested resource", "NotFound", 404⟩

/-- A call on what is kept at a place.  A path that was cut short gets to no
place. -/
def atPlace {α : Type} (place : String) (call : Action Cluster α) (path : String) :
    Action Cluster α :=
  if path = place then call else throw (.refused noSuchPlace)

/-- Whether the path leads to a namespace. -/
def leadsToNamespace (path : String) : Action Cluster Bool := fun c =>
  (.ok (c.namespaces.keys.any fun ns => ApiServer.namespacePath ns = path), c)

/-- Carries out the call that `ask` requests, given the path that it is
addressed to, unless the request cannot be written or is refused, and wakes
the trees that the call concerns. -/
def perform {α : Type} (ask : Ask α) (call : String → Action Cluster α)
    (trees : Operator → List String) : Action Operator α := fun o =>
  match ask.request with
  | .error f => (.error f, o)
  | .ok q =>
    match o.rules.find? (·.fits q) with
    | some r => (ask.read r.answer, o)
    | none =>
      match call q.target.path o.cluster with
      | (.ok x, c) => (.ok x, { o with cluster := c }.wake (trees o))
      | (.error f, c) => (.error f, { o with cluster := c })

/-- The calls of a pass. -/
def api : Api Operator where
  list tree := perform (ApiServer.list tree) (fun _ => Cluster.api.list tree) fun _ => []
  namespaceExists ns := perform (ApiServer.namespaceExists ns) leadsToNamespace fun _ => []
  create b :=
    perform (ApiServer.create .effective (ApiServer.namespaceOf b) b)
      (atPlace (ApiServer.bindingsPathIn b.key.ns) (Cluster.create titleOf b))
      fun _ => b.watchers
  replace b :=
    perform (ApiServer.replace .effective (ApiServer.namespaceOf b) b)
      (atPlace (ApiServer.bindingPath b.key.ns b.key.name) (Cluster.replace titleOf b))
      fun _ => b.watchers
  delete key :=
    perform (ApiServer.delete .effective key)
      (atPlace (ApiServer.bindingPath key.ns key.name) (Cluster.delete titleOf key))
      fun o => o.watchersOf key
  patchStatus tree s :=
    perform (ApiServer.patchStatus tree s)
      (atPlace (ApiServer.statusPath tree) (Cluster.api.patchStatus tree s)) fun _ => [tree]

/-- Makes the pass that follows due. -/
def follow (o : Operator) (tree : String) : Followup → Operator
  | .awaitChange => o
  | .requeue seconds => o.schedule (o.now + seconds) tree

/-- Makes a pass over a tree, if it is still there. -/
def pass (o : Operator) (tree : String) : Operator :=
  let o := { o with due := o.due.erase tree }
  match o.cluster.trees.get? tree with
  | none => o
  | some t =>
    match t.reconcile api ⟨Int.ofNat o.now, 0⟩ o with
    | (.ok next, o) => o.follow tree next
    | (.error f, o) => o.follow tree f.followup

/-- The entry with the least date, the first of several. -/
def earliest : List (String × Nat) → Option (String × Nat)
  | [] => none
  | e :: rest =>
    match earliest rest with
    | some f => if f.2 < e.2 then some f else some e
    | none => some e

/-- Makes the passes that are due up to the given time, but no more than
`limit`; bindings that two trees claim could keep passes coming for ever. -/
def advance (deadline : Nat) : (limit : Nat) → Operator → Operator
  | 0, o => { o with now := deadline }
  | limit + 1, o =>
    match earliest o.due.entries with
    | none => { o with now := deadline }
    | some (tree, time) =>
      if time ≤ deadline then advance deadline limit ({ o with now := max o.now time }.pass tree)
      else { o with now := deadline }

/-- Lets time pass. -/
def wait (o : Operator) (seconds : Nat) : Operator := advance (o.now + seconds) 10000 o

end Operator

end FolderGrants
