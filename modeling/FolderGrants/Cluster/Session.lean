import FolderGrants.Cluster.Script

/-!
# Sessions

A session is a history of a cluster: trees are applied and deleted,
namespaces and bindings come and go, calls begin to fail, and now and then a
pass is made over a stored tree.
-/

namespace FolderGrants

/-- One event in the history of a cluster. -/
inductive Event where
  | apply (t : FolderTree)
  /-- A pass over the stored tree of that name. -/
  | reconcile (name : String)
  | deleteTree (name : String)
  | addNamespace (ns : String)
  | removeNamespace (ns : String)
  | putBinding (b : Binding)
  | removeBinding (key : BindingKey)
  /-- From now on calls fail by these rules alone. -/
  | fail (rules : List FailureRule)

/-- What an event leads to. -/
inductive EventResult where
  | done
  | noSuchTree
  | passed (next : Followup)
  | failed (f : Fault)

/-- A cluster with scripted failures. -/
abbrev Session := Scripted Cluster

namespace Session

/-- Changes the cluster without a call. -/
def change (s : Session) (f : Cluster → Cluster) : EventResult × Session :=
  (.done, { s with world := f s.world })

/-- What an event at the time `now` leads to. -/
def step (now : Instant) (s : Session) : Event → EventResult × Session
  | .apply t => s.change (·.putTree t)
  | .reconcile name =>
    match s.world.trees.get? name with
    | none => (.noSuchTree, s)
    | some t =>
      match t.reconcile (Scripted.api Cluster.api) now s with
      | (.ok next, s) => (.passed next, s)
      | (.error f, s) => (.failed f, s)
  | .deleteTree name => s.change (·.removeTree name)
  | .addNamespace ns => s.change (·.addNamespace ns)
  | .removeNamespace ns => s.change (·.removeNamespace ns)
  | .putBinding b => s.change (·.putBinding b)
  | .removeBinding key => s.change (·.removeBinding key)
  | .fail rules => (.done, { s with rules })

end Session

end FolderGrants
