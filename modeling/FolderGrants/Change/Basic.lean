import FolderGrants.Desired.Basic

/-!
# Changes

The difference between the role bindings that are there, the *baseline*, and
those that a tree requires, as a list of changes.  The required keys come
first, in order, then the keys that are no longer required.  The role of a
binding cannot be altered in place: when it differs, the binding is deleted
and created anew.

The baseline is what the cluster holds when a pass makes the comparison, and
what the stored version of the tree requires when a review makes it.
-/

namespace FolderGrants

/-- What a change does. -/
inductive ChangeKind where
  | create
  | update
  | delete
  deriving DecidableEq, Repr, Inhabited

/-- How a kind of change is written. -/
def ChangeKind.text : ChangeKind → String
  | create => "CREATE"
  | update => "UPDATE"
  | delete => "DELETE"

/-- The kind of change that a text names. -/
def ChangeKind.ofText? (s : String) : Option ChangeKind :=
  [create, update, delete].find? fun k => k.text == s

/-- One change to a role binding.  A creation has a desired binding, a
deletion an existing one, an update both. -/
structure Change where
  kind : ChangeKind
  ns : String
  template : String
  existing : Option Binding
  desired : Option Binding
  deriving Inhabited

/-- A binding that is there and the template it is accounted to. -/
structure Held where
  binding : Binding
  template : String
  deriving Inhabited

/-- The bindings that are there. -/
abbrev Baseline := OrderedMap BindingKey Held

namespace Change

/-- The name of the binding that is changed. -/
def bindingName (c : Change) : String :=
  match c.desired.or c.existing with
  | some b => b.name
  | none => ""

/-- The change in words. -/
def text (c : Change) : String :=
  c.kind.text ++ " RoleBinding '" ++ c.bindingName ++ "' in namespace '" ++ c.ns ++
    "' for template '" ++ c.template ++ "'"

/-- Makes a binding that is not there. -/
def creation (key : BindingKey) (template : String) (desired : Binding) : Change :=
  ⟨.create, key.ns, template, none, some desired⟩

/-- Refreshes a binding that is there. -/
def renewal (key : BindingKey) (template : String) (existing desired : Binding) : Change :=
  ⟨.update, key.ns, template, some existing, some desired⟩

/-- Takes away a binding that is there. -/
def removal (key : BindingKey) (h : Held) : Change :=
  ⟨.delete, key.ns, h.template, some h.binding, none⟩

end Change

/-- What a required key calls for. -/
def changesAt (key : BindingKey) (want : Grant) : Option Held → List Change
  | none => [.creation key want.template.name want.binding]
  | some held =>
    if held.binding.roleRef ≠ want.binding.roleRef then
      [.removal key held, .creation key want.template.name want.binding]
    else if held.binding.needsRefresh want.binding then
      [.renewal key want.template.name held.binding want.binding]
    else []

namespace DesiredSet

/-- The changes that lead from a baseline to the desired set. -/
def changesFrom (desired : DesiredSet) (baseline : Baseline) : List Change :=
  desired.entries.flatMap (fun e => changesAt e.1 e.2 (baseline.get? e.1)) ++
    (baseline.filter fun k _ => !desired.contains k).entries.map fun e => .removal e.1 e.2

/-- A desired set as the baseline of its next version. -/
def baseline (d : DesiredSet) : Baseline := d.mapValues fun _ g => ⟨g.binding, g.template.name⟩

end DesiredSet

namespace Baseline

/-- Listed bindings as a baseline, each accounted to the template that its
label names; of two bindings with one key the later counts. -/
def ofBindings (live : List Binding) : Baseline :=
  .ofList (live.map fun b => (b.key, ⟨b, b.template?.getD ""⟩))

end Baseline

namespace FolderTree

/-- The changes between two versions of a tree; on creation there is no old
version. -/
def changesFrom (old : Option FolderTree) (new : FolderTree) : Except Conflict (List Change) := do
  let before ← match old with
    | none => .ok .empty
    | some old => old.unownedDesired
  let after ← new.unownedDesired
  return after.changesFrom before.baseline

end FolderTree

end FolderGrants
