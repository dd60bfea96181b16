/-!
# Templates for role bindings

A template says which subjects get which role.  It is applied to namespaces
by the folder that owns it and, if it propagates, by every folder below that
one.

Two templates give *the same grant* when they name the same role and the
same set of subjects; the order of the subjects and repeated subjects do not
matter, while an absent namespace or group differs from an empty one.
-/

namespace FolderGrants

/-- The group that roles, users and groups of users belong to. -/
def rbacGroup : String := "rbac.authorization.k8s.io"

/-- An identity that access is granted to. -/
structure Subject where
  kind : String
  name : String
  /-- Where a service account lives. -/
  ns : Option String := none
  apiGroup : Option String := none
  deriving DecidableEq, Repr, Inhabited

/-- The role that is granted. -/
structure RoleRef where
  apiGroup : String
  kind : String
  name : String
  deriving DecidableEq, Repr, Inhabited

/-- A blueprint for role bindings. -/
structure Template where
  name : String
  subjects : List Subject
  roleRef : RoleRef
  /-- Whether folders below inherit the template; absent means no. -/
  propagate : Option Bool := none
  deriving DecidableEq, Repr, Inhabited

/-- A user of the given name. -/
def Subject.user (name : String) : Subject := { kind := "User", name, apiGroup := some rbacGroup }

/-- A group of users of the given name. -/
def Subject.group (name : String) : Subject := { kind := "Group", name, apiGroup := some rbacGroup }

/-- A role that is defined for the whole cluster. -/
def RoleRef.clusterRole (name : String) : RoleRef := ⟨rbacGroup, "ClusterRole", name⟩

namespace Template

/-- Whether folders below inherit the template. -/
def propagates (t : Template) : Bool := t.propagate.getD false

/-- Whether two templates name the same role and the same set of subjects. -/
def sameGrant (a b : Template) : Bool :=
  a.roleRef == b.roleRef && a.subjects.all (b.subjects.contains ·) &&
    b.subjects.all (a.subjects.contains ·)

/-- The same role and the same set of subjects. -/
theorem sameGrant_iff (a b : Template) :
    a.sameGrant b = true ↔ a.roleRef = b.roleRef ∧ ∀ s, s ∈ a.subjects ↔ s ∈ b.subjects := by
  simp only [sameGrant, Bool.and_eq_true, beq_iff_eq, List.all_eq_true, List.contains_iff_mem]
  constructor
  · rintro ⟨⟨hr, hab⟩, hba⟩
    exact ⟨hr, fun s => ⟨hab s, hba s⟩⟩
  · rintro ⟨hr, hs⟩
    exact ⟨⟨hr, fun s h => (hs s).1 h⟩, fun s h => (hs s).2 h⟩

end Template

end FolderGrants
