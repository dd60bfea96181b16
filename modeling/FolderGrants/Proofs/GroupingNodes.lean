import FolderGrants.Proofs.NodeEdits

/-!
# Nodes that only group

A node whose name no folder has emits nothing of its own and hands down what it
inherits, so the nodes below it are walked through as if they stood in its place.  Where
it is left out and they move up, the walk lists the same emissions in the same order: the
same ones come first, and the same ones are refused.  The name that vanishes is no
folder's, so that no folder stands alone that did not before.

* `Spec.Ungroups` — a node that only groups gives way to the nodes below it;
* `Spec.Ungroups.emissions_eq` — the walk does not notice;
* `FolderTree.grouping_nodes_transparent` — nor does the desired set, nor the conflict.
-/

namespace FolderGrants

namespace Spec

variable {s s' : Spec}

/-- One node below the top, whose name no folder has, gives way to its own subfolders, in
its place and in their order. -/
inductive Ungroups : Spec → Spec → Prop
  | node {root root' : Node} {folders : List Folder} {parent group : String}
      {before children after : List Node} (hgroup : ∀ f ∈ folders, f.name ≠ group)
      (hnode : Node.Replaces ⟨parent, before ++ ⟨group, children⟩ :: after⟩
        ⟨parent, before ++ children ++ after⟩ root root') :
      Ungroups ⟨some root, folders⟩ ⟨some root', folders⟩

/-- A name that no entry of the list has finds no folder. -/
theorem folder?_eq_none {name : String} (h : ∀ f ∈ s.folders, f.name ≠ name) :
    s.folder? name = none := by
  rw [folder?, List.getLast?_eq_none_iff, List.filter_eq_nil_iff]
  intro f hf
  simpa using h f hf

/-- A node that only groups emits what the nodes below it emit. -/
theorem emissionsAt_of_group {group : String} {children : List Node}
    (hgroup : s.folder? group = none) (inherited : List Template) :
    s.emissionsAt inherited ⟨group, children⟩ = s.emissionsBelow inherited children := by
  rw [emissionsAt, hgroup]

/-- So do all nodes beside it, with it or with the nodes below it. -/
theorem emissionsBelow_of_group {group : String} {before children after : List Node}
    (hgroup : s.folder? group = none) (inherited : List Template) :
    s.emissionsBelow inherited (before ++ ⟨group, children⟩ :: after) =
      s.emissionsBelow inherited (before ++ children ++ after) := by
  rw [emissionsBelow_append, emissionsBelow, emissionsAt_of_group hgroup, emissionsBelow_append,
    emissionsBelow_append, List.append_assoc]

/-- **A node that only groups is not seen by the walk.** -/
theorem Ungroups.emissions_eq (h : s.Ungroups s') : s.emissions = s'.emissions := by
  cases h with
  | @node root root' folders parent group before children after hgroup hnode =>
      have hnone : folder? ⟨some root, folders⟩ group = none := folder?_eq_none hgroup
      have hbelow : ∀ inherited,
          emissionsBelow ⟨some root, folders⟩ inherited (before ++ ⟨group, children⟩ :: after) =
            emissionsBelow ⟨some root, folders⟩ inherited (before ++ children ++ after) :=
        fun inherited => emissionsBelow_of_group hnone inherited
      have hnames : ∀ f ∈ folders,
          f.name ∈ Node.names ⟨parent, before ++ ⟨group, children⟩ :: after⟩ ↔
            f.name ∈ Node.names ⟨parent, before ++ children ++ after⟩ := by
        intro f hf
        have hother : f.name ≠ group := hgroup f hf
        simp only [Node.names, Node.namesOf, List.mem_cons, List.mem_append,
          Node.mem_namesOf_append, hother, false_or, or_assoc]
      exact emissions_rel piecewise_eq hnode (emissionsAt_rel_of_below piecewise_eq hbelow) hnames

end Spec

namespace FolderTree

/-- **Grouping nodes are transparent.**  If a node below the top of a hierarchy has a
name that no entry of the folder list has, and another tree has its subfolders in its
place and in their order, at any depth, then either tree has the desired set that the
other has, with the same grants, or is refused for the same conflict.  The builder
stands for what the trees have in common, their name and their owner. -/
theorem grouping_nodes_transparent {t t' : FolderTree} (h : t.spec.Ungroups t'.spec)
    (b : Builder) : t.desired b = t'.desired b := by
  rw [desired, desired, h.emissions_eq]

/-- A school with a node that only groups its classes: the first one, which has a template
of its own, and another node that only groups. -/
def school : FolderTree where
  metadata := { name := some "school" }
  spec :=
    { root := some ⟨"school", [⟨"office", []⟩, ⟨"classes", [⟨"first", []⟩, ⟨"upper",
        [⟨"second", []⟩]⟩]⟩, ⟨"library", []⟩]⟩
      folders :=
        [{ name := "school"
           templates := [⟨"teach", [.group "teachers"], .clusterRole "edit", some true⟩] },
         { name := "first", namespaces := ["first-ns"]
           templates := [⟨"look", [.group "parents"], .clusterRole "view", none⟩] },
         { name := "second", namespaces := ["second-ns"] },
         { name := "library", namespaces := ["library-ns"] },
         { name := "canteen", namespaces := ["canteen-ns"]
           templates := [⟨"cook", [.user "ada"], .clusterRole "edit", none⟩] }] }

/-- The school without the node that groups the upper classes. -/
def openSchool : FolderTree where
  metadata := { name := some "school" }
  spec :=
    { root := some ⟨"school", [⟨"office", []⟩, ⟨"classes", [⟨"first", []⟩, ⟨"second", []⟩]⟩,
        ⟨"library", []⟩]⟩
      folders := school.spec.folders }

theorem grouping_nodes_transparent_school :
    school.desired (.ownedBy school) = openSchool.desired (.ownedBy school) ∧
      ∃ set, openSchool.desired (.ownedBy school) = .ok set ∧
        set.keys = [⟨"canteen-ns", "foldertree-school-cook"⟩,
          ⟨"first-ns", "foldertree-school-look"⟩, ⟨"first-ns", "foldertree-school-teach"⟩,
          ⟨"library-ns", "foldertree-school-teach"⟩, ⟨"second-ns", "foldertree-school-teach"⟩] := by
  have hungroups : school.spec.Ungroups openSchool.spec :=
    @Spec.Ungroups.node _ _ school.spec.folders "classes" "upper" [⟨"first", []⟩]
      [⟨"second", []⟩] [] (by decide)
      (@Node.Replaces.under _ _ "school" [⟨"office", []⟩] [⟨"library", []⟩] _ _ .here)
  exact ⟨grouping_nodes_transparent hungroups (.ownedBy school), _, rfl, rfl⟩

end FolderTree

end FolderGrants
