import FolderGrants.Pass.Basic

/-!
# Clusters

A cluster holds namespaces, role bindings by key and folder trees by name.
This is the server that passes run against when nothing fails: a binding is
created only where there is none, replaced and deleted only where there is
one, and a call that is refused changes nothing.
-/

namespace FolderGrants

/-- What the API server stores, as far as trees and bindings go. -/
structure Cluster where
  namespaces : OrderedMap String Unit := .empty
  bindings : OrderedMap BindingKey Binding := .empty
  trees : OrderedMap String FolderTree := .empty
  deriving Inhabited

/-- The refusal to create what is there already. -/
def Refusal.alreadyExists (title : String) : Refusal :=
  ⟨"Failure", title ++ " already exists", "AlreadyExists", 409⟩

/-- The refusal to change what is not there. -/
def Refusal.notFound (title : String) : Refusal :=
  ⟨"Failure", title ++ " not found", "NotFound", 404⟩

namespace Cluster

/-- Whether a namespace exists. -/
def hasNamespace (c : Cluster) (ns : String) : Bool := c.namespaces.contains ns

/-- The bindings whose label names the given tree, in key order. -/
def bindingsOf (c : Cluster) (tree : String) : List Binding :=
  c.bindings.values.filter fun b => b.tree? == some tree

/-- Stores a binding under its key. -/
def putBinding (c : Cluster) (b : Binding) : Cluster :=
  { c with bindings := c.bindings.insert b.key b }

/-- Removes the binding with that key, if there is one. -/
def removeBinding (c : Cluster) (key : BindingKey) : Cluster :=
  { c with bindings := c.bindings.erase key }

/-- Adds a namespace. -/
def addNamespace (c : Cluster) (ns : String) : Cluster :=
  { c with namespaces := c.namespaces.insert ns () }

/-- Removes a namespace together with its bindings. -/
def removeNamespace (c : Cluster) (ns : String) : Cluster :=
  { c with
    namespaces := c.namespaces.erase ns
    bindings := c.bindings.filter fun k _ => k.ns != ns }

/-- Stores a tree under its name; one without a status keeps the stored one. -/
def putTree (c : Cluster) (t : FolderTree) : Cluster :=
  let stored := (c.trees.get? t.name).bind (·.status)
  { c with trees := c.trees.insert t.name { t with status := t.status.or stored } }

/-- Removes a tree. -/
def removeTree (c : Cluster) (name : String) : Cluster := { c with trees := c.trees.erase name }

/-- Stores a status on the tree of that name, if there is one. -/
def putStatus (c : Cluster) (name : String) (s : Status) : Cluster :=
  match c.trees.get? name with
  | none => c
  | some t => { c with trees := c.trees.insert name { t with status := some s } }

/-- Creates a binding where there is none; `title` is what a refusal calls a
binding. -/
def create (title : BindingKey → String) (b : Binding) : Action Cluster Unit := fun c =>
  if c.bindings.contains b.key then (.error (.refused (.alreadyExists (title b.key))), c)
  else (.ok (), c.putBinding b)

/-- Replaces the binding with the same key. -/
def replace (title : BindingKey → String) (b : Binding) : Action Cluster Unit := fun c =>
  if c.bindings.contains b.key then (.ok (), c.putBinding b)
  else (.error (.refused (.notFound (title b.key))), c)

/-- Deletes the binding with that key. -/
def delete (title : BindingKey → String) (key : BindingKey) : Action Cluster Unit := fun c =>
  if c.bindings.contains key then (.ok (), c.removeBinding key)
  else (.error (.refused (.notFound (title key))), c)

/-- The calls of a pass, answered without failures. -/
def api : Api Cluster where
  list tree := fun c => (.ok (c.bindingsOf tree), c)
  namespaceExists ns := fun c => (.ok (c.hasNamespace ns), c)
  create := create BindingKey.text
  replace := replace BindingKey.text
  delete := delete BindingKey.text
  patchStatus name s := fun c => (.ok (), c.putStatus name s)

end Cluster

end FolderGrants
