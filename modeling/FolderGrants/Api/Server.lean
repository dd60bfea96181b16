import FolderGrants.Api.Answer
import FolderGrants.Api.Basic

/-!
# The API server over HTTP

Each call is one request, and one way to read the answer.  A call that cannot
be written as a request is not sent.
-/

namespace FolderGrants

open Json (str obj)

/-- Who writes, as the server records it. -/
def fieldManager : String := Binding.manager

/-- A request and how its answer is read. -/
structure Ask (α : Type) where
  request : Except Fault Http.Request
  read : Http.Response → Except Fault α

namespace Ask

variable {α β : Type}

/-- Sends the answer through `f`. -/
def map (f : α → β) (a : Ask α) : Ask β where
  request := a.request
  read r := (a.read r).map f

/-- The target at an address, if it can be written. -/
def target (address : String) (query : List (String × String) := []) :
    Except Fault Http.Target :=
  match Http.Target.ofText? address query with
  | some t => .ok t
  | none => .error (.request (.unwritable "failed to build request: invalid uri character"))

/-- The target at the address of the object of the given name. -/
def targetOf (name : String) (address : String → String) (query : List (String × String) := []) :
    Except Fault Http.Target :=
  if name.isEmpty then
    .error (.request (.unwritable "failed to validate request: A non-empty name is required"))
  else target (address name) query

end Ask

/-- How writes are made. -/
structure WriteMode where
  query : List (String × String)
  /-- What a deletion sends. -/
  deletion : Json

namespace WriteMode

/-- Writes take effect. -/
def effective : WriteMode := ⟨[], obj []⟩

/-- Writes are checked and have no effect. -/
def dryRun : WriteMode :=
  ⟨[("dryRun", "All"), ("fieldManager", fieldManager)], obj [("dryRun", .arr [str "All"])]⟩

end WriteMode

namespace ApiServer

/-- Where role bindings are listed. -/
def bindingsPath : String := "/apis/" ++ Binding.apiVersion ++ "/rolebindings"

/-- Where the role bindings of a namespace are kept. -/
def bindingsPathIn (ns : String) : String :=
  "/apis/" ++ Binding.apiVersion ++ "/namespaces/" ++ ns ++ "/rolebindings"

/-- Where a role binding is kept. -/
def bindingPath (ns name : String) : String := bindingsPathIn ns ++ "/" ++ name

/-- Where a namespace is kept. -/
def namespacePath (ns : String) : String := "/api/v1/namespaces/" ++ ns

/-- Where the status of a tree is kept. -/
def statusPath (tree : String) : String :=
  "/apis/" ++ FolderTree.apiVersion ++ "/foldertrees/" ++ tree ++ "/status"

def jsonType : String × String := ("content-type", "application/json")

/-- The content type of a change to parts of an object. -/
def mergeType : String × String := ("content-type", "application/merge-patch+json")

/-- Asks for the role bindings of a tree. -/
def list (tree : String) : Ask (List Binding) where
  request := do
    let selector := [("labelSelector", Binding.treeSelector tree)]
    return { method := "GET", target := ← Ask.target (bindingsPath ++ "?") selector }
  read := Answer.readObject Answer.decodeBindings

/-- Asks whether a namespace exists. -/
def namespaceExists (ns : String) : Ask Bool where
  request := do
    return { method := "GET", target := ← Ask.targetOf ns namespacePath }
  read r :=
    match Answer.readObject Answer.decodeNamespace r with
    | .ok () => .ok true
    | .error (.request (.refused refusal)) =>
      if refusal.reason = "NotFound" then .ok false else .error (.refused refusal)
    | .error f => .error f

/-- The namespace that a binding is to be written to. -/
def namespaceOf (b : Binding) : Except Fault String :=
  match b.metadata.ns with
  | some ns => .ok ns
  | none => .error (.invalidRequest ("RoleBinding " ++ b.name ++ " has no namespace"))

/-- Asks to create a role binding in a namespace. -/
def create (mode : WriteMode) (ns : Except Fault String) (b : Binding) : Ask Unit where
  request := do
    let ns ← ns
    let target ← Ask.target (bindingsPathIn ns ++ "?") mode.query
    return { method := "POST", target, headers := [jsonType], body := some b.encode }
  read r := (Answer.readObject Binding.decode r).map fun _ => ()

/-- Asks to replace a role binding in a namespace. -/
def replace (mode : WriteMode) (ns : Except Fault String) (b : Binding) : Ask Unit where
  request := do
    let ns ← ns
    let target ← Ask.targetOf b.name (bindingPath ns · ++ "?") mode.query
    return { method := "PUT", target, headers := [jsonType], body := some b.encode }
  read r := (Answer.readObject Binding.decode r).map fun _ => ()

/-- Asks to delete a role binding. -/
def delete (mode : WriteMode) (key : BindingKey) : Ask Unit where
  request := do
    let target ← Ask.targetOf key.name (bindingPath key.ns · ++ "?")
    return { method := "DELETE", target, headers := [jsonType], body := some mode.deletion }
  read := Answer.readDeletion

/-- Asks to write the status of a tree. -/
def patchStatus (tree : String) (s : Status) : Ask Unit where
  request := do
    let target ← Ask.targetOf tree (statusPath · ++ "?") [("fieldManager", fieldManager)]
    let body := obj [("status", s.encode)]
    return { method := "PATCH", target, headers := [mergeType], body := some body }
  read r := (Answer.readObject FolderTree.decode r).map fun _ => ()

end ApiServer

/-- How requests get to the server: an answer, or why none came back. -/
abbrev Transport (σ : Type) := Http.Request → StateM σ (Except String Http.Response)

namespace Ask

variable {σ α : Type}

/-- Sends the request and reads the answer. -/
def run (t : Transport σ) (a : Ask α) : Action σ α := fun s =>
  match a.request with
  | .error f => (.error f, s)
  | .ok q =>
    match t q s with
    | (.ok r, s) => (a.read r, s)
    | (.error why, s) => (.error (.request (.service why)), s)

end Ask

namespace Api

/-- The calls of a pass over HTTP. -/
def overHttp {σ : Type} (t : Transport σ) : Api σ where
  list tree := (ApiServer.list tree).run t
  namespaceExists ns := (ApiServer.namespaceExists ns).run t
  create b := (ApiServer.create .effective (ApiServer.namespaceOf b) b).run t
  replace b := (ApiServer.replace .effective (ApiServer.namespaceOf b) b).run t
  delete key := (ApiServer.delete .effective key).run t
  patchStatus tree s := (ApiServer.patchStatus tree s).run t

end Api

namespace Trials

/-- The calls of a review over HTTP. -/
def overHttp {σ : Type} (t : Transport σ) : Trials σ where
  create b := (ApiServer.create .dryRun (.ok (b.metadata.ns.getD "")) b).run t
  replace b := (ApiServer.replace .dryRun (.ok (b.metadata.ns.getD "")) b).run t
  delete key := (ApiServer.delete .dryRun key).run t

end Trials

end FolderGrants
