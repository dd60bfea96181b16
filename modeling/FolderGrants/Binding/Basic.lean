import FolderGrants.Metadata.Basic
import FolderGrants.Template
import FolderGrants.Tree.Stored

/-!
# Role bindings

A role binding grants a role to subjects within one namespace.  The bindings
made for a tree are recognised by three labels: who manages them, for which
tree and from which template.  Their name is made of the names of the tree
and of the template, so that it does not depend on where in the tree the
template stands.

A binding is *refreshed* to a wanted one by taking over its subjects, its role
and its labels; all other metadata stays.  It *needs a refresh* when one of
these would change something that counts: subjects count as a set together
with the length of their list, and an absent namespace or group counts as an
empty one.
-/

namespace FolderGrants

/-- The identity of a binding: where it lives and what it is called. -/
structure BindingKey where
  ns : String
  name : String
  deriving DecidableEq, Repr, Inhabited

namespace BindingKey

/-- Keys are ordered by namespace, then by name. -/
def cmp : BindingKey → BindingKey → Ordering :=
  compareLex (compareOn BindingKey.ns) (compareOn BindingKey.name)

instance : Ord BindingKey := ⟨cmp⟩

instance : Std.TransOrd BindingKey :=
  inferInstanceAs (Std.TransCmp (compareLex (compareOn BindingKey.ns) (compareOn BindingKey.name)))

instance : Std.LawfulEqOrd BindingKey where
  eq_of_compare {a b} h := by
    have h' : (compareOn BindingKey.ns a b).then (compareOn BindingKey.name a b) = .eq := h
    rw [Ordering.then_eq_eq] at h'
    have hn : a.ns = b.ns := Std.LawfulEqCmp.eq_of_compare h'.1
    have hm : a.name = b.name := Std.LawfulEqCmp.eq_of_compare h'.2
    cases a
    cases b
    simp_all

/-- A key as it is shown. -/
def text (k : BindingKey) : String := k.ns ++ "/" ++ k.name

end BindingKey

/-- A role binding. -/
structure Binding where
  metadata : Metadata := {}
  subjects : Option (List Subject) := none
  roleRef : RoleRef := ⟨"", "", ""⟩
  deriving Inhabited

namespace Binding

/-- The label that says who manages a binding. -/
def managedByLabel : String := "app.kubernetes.io/managed-by"

/-- What the label says on the bindings made for trees. -/
def manager : String := "foldertree-controller"

/-- The label that names the tree. -/
def treeLabel : String := "foldertree.rbac.kubevirt.io/tree"

/-- The label that names the template. -/
def templateLabel : String := "foldertree.rbac.kubevirt.io/role-binding-template"

/-- The name of the binding that a template of a tree gives everywhere. -/
def nameFor (tree template : String) : String := "foldertree-" ++ tree ++ "-" ++ template

/-- The name under which the creation of such a binding is tried out; the
clock reading keeps it apart from the binding itself. -/
def trialNameFor (tree template : String) (nanos : Int) : String :=
  "dryrun-foldertree-" ++ tree ++ "-" ++ template ++ "-" ++ toString nanos

/-- The three labels of a binding for a tree and a template. -/
def trackingLabels (tree template : String) : Labels :=
  .ofList [(managedByLabel, manager), (treeLabel, tree), (templateLabel, template)]

/-- Selects the bindings of one tree. -/
def treeSelector (tree : String) : String := treeLabel ++ "=" ++ tree

/-- Selects the bindings of all trees. -/
def managedSelector : String := managedByLabel ++ "=" ++ manager

/-- The name of a binding. -/
def name (b : Binding) : String := b.metadata.anyName

/-- Where a binding lives and what it is called. -/
def key (b : Binding) : BindingKey := ⟨b.metadata.ns.getD "", b.name⟩

/-- The labels of a binding. -/
def labels (b : Binding) : Labels := b.metadata.labelMap

/-- The tree that a binding says it was made for. -/
def tree? (b : Binding) : Option String := b.labels.get? treeLabel

/-- The template that a binding says it was made from. -/
def template? (b : Binding) : Option String := b.labels.get? templateLabel

/-- The subjects, none if they are absent. -/
def subjectList (b : Binding) : List Subject := b.subjects.getD []

end Binding

/-- What counts of a subject when bindings are compared. -/
def Subject.identity (s : Subject) : String × String × String × String :=
  (s.kind, s.name, s.ns.getD "", s.apiGroup.getD "")

/-- Whether two lists of subjects are equally long and name the same ones. -/
def Subject.sameList (a b : List Subject) : Bool :=
  a.length == b.length &&
    a.all (fun s => b.any fun t => s.identity == t.identity) &&
    b.all (fun s => a.any fun t => s.identity == t.identity)

namespace Binding

/-- Whether `existing` has to be refreshed to serve as `desired`. -/
def needsRefresh (existing desired : Binding) : Bool :=
  !Subject.sameList existing.subjectList desired.subjectList ||
    existing.roleRef != desired.roleRef ||
    desired.labels.entries.any fun e => existing.labels.get? e.1 != some e.2

/-- `existing` with the subjects, the role and the labels of `desired`. -/
def refreshed (existing desired : Binding) : Binding :=
  { metadata :=
      { existing.metadata with labels := some (existing.labels.union desired.labels) }
    subjects := desired.subjects
    roleRef := desired.roleRef }

end Binding

/-- Builds the bindings of one tree. -/
structure Builder where
  tree : String
  owner : Option Owner
  deriving DecidableEq, Repr

namespace Builder

/-- Bindings that are collected together with their tree. -/
def ownedBy (t : FolderTree) : Builder := ⟨t.name, t.controllerOwner?⟩

/-- Bindings that belong to no object. -/
def unowned (t : FolderTree) : Builder := ⟨t.name, none⟩

/-- The binding that a template gives in a namespace. -/
def build (b : Builder) (t : Template) (ns : String) : Binding where
  metadata :=
    { name := some (Binding.nameFor b.tree t.name)
      ns := some ns
      labels := some (Binding.trackingLabels b.tree t.name)
      owners := b.owner.map ([·]) }
  subjects := some t.subjects
  roleRef := t.roleRef

end Builder

end FolderGrants
