import FolderGrants.Cluster.Basic
import FolderGrants.Review.Authority

/-!
# Scripted failures

A world in which chosen calls fail.  Each rule lets calls of one sort, perhaps
only those on one namespace or one name, end in a given fault, perhaps only a
number of times.  A call takes the fault of the first rule that fits and is
not used up; if there is none, the call is carried out.  Every call is
recorded with what came of it.
-/

namespace FolderGrants

/-- A call to the API server. -/
inductive Call where
  | list (tree : String)
  | namespaceExists (ns : String)
  | create (b : Binding)
  | replace (b : Binding)
  | delete (key : BindingKey)
  | patchStatus (tree : String) (s : Status)
  /-- Makes a client that acts as the requester. -/
  | clientFor (r : Requester)

namespace Call

/-- What a call is called. -/
def verb : Call → String
  | list _ => "list"
  | namespaceExists _ => "namespace_exists"
  | create _ => "create"
  | replace _ => "replace"
  | delete _ => "delete"
  | patchStatus .. => "patch_status"
  | clientFor _ => "client_for"

/-- What a call is about. -/
def target : Call → BindingKey
  | list tree => ⟨"", tree⟩
  | namespaceExists ns => ⟨"", ns⟩
  | create b => b.key
  | replace b => b.key
  | delete key => key
  | patchStatus tree _ => ⟨"", tree⟩
  | clientFor r => ⟨"", r.username⟩

end Call

/-- Which calls fail, and how. -/
structure FailureRule where
  verb : String
  ns : Option String := none
  name : Option String := none
  /-- How often the rule still applies; absent means always. -/
  times : Option Nat := none
  fault : Fault

namespace FailureRule

/-- Whether the rule applies to a call. -/
def fits (r : FailureRule) (c : Call) : Bool :=
  r.verb == c.verb && r.ns.all (· == c.target.ns) && r.name.all (· == c.target.name) &&
    r.times != some 0

/-- The rule after it was applied once. -/
def used (r : FailureRule) : FailureRule := { r with times := r.times.map (· - 1) }

/-- The fault of the first rule that applies, and the rules after that. -/
def take (c : Call) : List FailureRule → Option (Fault × List FailureRule)
  | [] => none
  | r :: rest =>
    if r.fits c then some (r.fault, r.used :: rest)
    else (take c rest).map fun x => (x.1, r :: x.2)

end FailureRule

/-- A call and the fault it ended in, if it did. -/
structure CallRecord where
  call : Call
  fault : Option Fault

/-- A world with rules for failures and a record of all calls, latest first. -/
structure Scripted (ω : Type) where
  world : ω
  rules : List FailureRule := []
  log : List CallRecord := []

namespace Scripted

variable {ω α : Type}

/-- The calls so far, in order. -/
def calls (s : Scripted ω) : List CallRecord := s.log.reverse

/-- Carries out a call, unless a rule lets it fail. -/
def perform (c : Call) (a : Action ω α) : Action (Scripted ω) α := fun s =>
  match FailureRule.take c s.rules with
  | some (f, rules) => (.error f, { s with rules, log := ⟨c, some f⟩ :: s.log })
  | none =>
    match a s.world with
    | (.ok x, world) => (.ok x, { s with world, log := ⟨c, none⟩ :: s.log })
    | (.error f, world) => (.error f, { s with world, log := ⟨c, some f⟩ :: s.log })

/-- The calls of a pass with scripted failures. -/
def api (inner : Api ω) : Api (Scripted ω) where
  list tree := perform (.list tree) (inner.list tree)
  namespaceExists ns := perform (.namespaceExists ns) (inner.namespaceExists ns)
  create b := perform (.create b) (inner.create b)
  replace b := perform (.replace b) (inner.replace b)
  delete key := perform (.delete key) (inner.delete key)
  patchStatus name s := perform (.patchStatus name s) (inner.patchStatus name s)

/-- The calls of a review with scripted failures; without one, every trial is
accepted. -/
def trials : Trials (Scripted ω) where
  create b := perform (.create b) (return ())
  replace b := perform (.replace b) (return ())
  delete key := perform (.delete key) (return ())

/-- Reviews with scripted failures; `fault` keeps every client from being
made, and the clock stands still. -/
def authority (trusted : List String) (fault : Option Fault) : Authority (Scripted ω) where
  trusted := trusted
  actAs r := perform (.clientFor r) (Action.ofExcept (fault.elim (.ok ()) .error)) >>= fun _ =>
    return trials
  clock := return 0

end Scripted

end FolderGrants
