import FolderGrants.Binding.Basic
import FolderGrants.Desired.Emission

/-!
# The desired set

The role bindings that a tree requires, by key.  Several emissions may have
the same key: if they give the same grant, the first one counts; if not, the
tree contradicts itself and has no desired set.
-/

namespace FolderGrants

/-- A role binding that a tree requires, and where it comes from. -/
structure Grant where
  ns : String
  /-- The folder that emitted the template. -/
  folder : String
  template : Template
  binding : Binding
  deriving Inhabited

/-- The role bindings that a tree requires. -/
abbrev DesiredSet := OrderedMap BindingKey Grant

/-- Two emissions with one key and different grants; the later one is named. -/
structure Conflict where
  tree : String
  folder : String
  template : String
  ns : String
  deriving DecidableEq, Repr, Inhabited

namespace Emission

/-- The grant that an emission asks for. -/
def grant (b : Builder) (e : Emission) : Grant :=
  ⟨e.ns, e.folder, e.template, b.build e.template e.ns⟩

/-- The conflict that an emission is in. -/
def conflict (b : Builder) (e : Emission) : Conflict := ⟨b.tree, e.folder, e.template.name, e.ns⟩

end Emission

namespace DesiredSet

/-- Adds what one more emission asks for. -/
def add (b : Builder) (set : DesiredSet) (e : Emission) : Except Conflict DesiredSet :=
  let g := e.grant b
  match set.get? g.binding.key with
  | none => .ok (set.insert g.binding.key g)
  | some first =>
    if first.template.sameGrant e.template then .ok set else .error (e.conflict b)

/-- Adds what emissions ask for, in order. -/
def addAll (b : Builder) : List Emission → DesiredSet → Except Conflict DesiredSet
  | [], set => .ok set
  | e :: rest, set => do addAll b rest (← add b set e)

end DesiredSet

namespace FolderTree

/-- The role bindings that a tree requires, built by `b`. -/
def desired (t : FolderTree) (b : Builder) : Except Conflict DesiredSet :=
  DesiredSet.addAll b t.spec.emissions .empty

/-- The role bindings as the controller makes them, owned by the tree. -/
def ownedDesired (t : FolderTree) : Except Conflict DesiredSet := t.desired (.ownedBy t)

/-- The role bindings as a review looks at them, owned by nothing. -/
def unownedDesired (t : FolderTree) : Except Conflict DesiredSet := t.desired (.unowned t)

end FolderTree

end FolderGrants
