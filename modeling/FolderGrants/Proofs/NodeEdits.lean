import FolderGrants.Proofs.Edits

/-!
# Walks over an edited hierarchy

The walk lists the emissions of a node and of all that is below it in one stretch, and
what a node inherits does not depend on what stands beside or below it.  So if one node
gives way to another one that emits the same, then the whole specification emits the
same; and likewise if it emits the same in another order.

* `Spec.emissionsBelow_eq_flatMap` — nodes are walked through one after the other;
* `Piecewise` — relations between lists that can be seen piece by piece;
* `Node.Replaces.emissionsAt_rel` — from the edited node up to the top;
* `Spec.emissions_rel` — and from the top to the specification.
-/

namespace FolderGrants

/-- A relation between lists that holds of a list and itself, and of two lists that are
put together of related pieces. -/
structure Piecewise {α : Type} (R : List α → List α → Prop) : Prop where
  refl : ∀ l, R l l
  append : ∀ {l₁ l₁' l₂ l₂'}, R l₁ l₁' → R l₂ l₂' → R (l₁ ++ l₂) (l₁' ++ l₂')

theorem piecewise_eq {α : Type} : Piecewise (@Eq (List α)) where
  refl _ := rfl
  append h h' := h ▸ h' ▸ rfl

theorem piecewise_perm {α : Type} : Piecewise (@List.Perm α) where
  refl _ := .refl _
  append h h' := h.append h'

namespace Spec

/-- Nodes are walked through one after the other. -/
theorem emissionsBelow_eq_flatMap (s : Spec) (inherited : List Template) (nodes : List Node) :
    s.emissionsBelow inherited nodes = nodes.flatMap (s.emissionsAt inherited) := by
  induction nodes with
  | nil => rfl
  | cons n rest ih => rw [emissionsBelow, List.flatMap_cons, ih]

/-- Nodes in two lists emit what they emit in the first, and then what they emit in the
second. -/
theorem emissionsBelow_append (s : Spec) (inherited : List Template) (nodes nodes' : List Node) :
    s.emissionsBelow inherited (nodes ++ nodes') =
      s.emissionsBelow inherited nodes ++ s.emissionsBelow inherited nodes' := by
  simp only [emissionsBelow_eq_flatMap, List.flatMap_append]

mutual

/-- Below a node the walk looks at folders only. -/
theorem emissionsAt_of_folders {s s' : Spec} (h : s.folders = s'.folders) :
    ∀ (inherited : List Template) (n : Node),
      s.emissionsAt inherited n = s'.emissionsAt inherited n
  | inherited, ⟨name, subfolders⟩ => by
      have hfind : s.folder? name = s'.folder? name := by rw [folder?, folder?, h]
      rw [emissionsAt, emissionsAt, hfind]
      cases s'.folder? name with
      | none => exact emissionsBelow_of_folders h inherited subfolders
      | some f =>
          simp only [emissionsBelow_of_folders h (inherited ++ f.handedDown) subfolders]

/-- What nodes emit depends on the folders of a specification only. -/
theorem emissionsBelow_of_folders {s s' : Spec} (h : s.folders = s'.folders) :
    ∀ (inherited : List Template) (nodes : List Node),
      s.emissionsBelow inherited nodes = s'.emissionsBelow inherited nodes
  | _, [] => rfl
  | inherited, n :: rest => by
      rw [emissionsBelow, emissionsBelow, emissionsAt_of_folders h inherited n,
        emissionsBelow_of_folders h inherited rest]

end

variable {s : Spec} {R : List Emission → List Emission → Prop}

/-- Two nodes of one name are related if the nodes below them are. -/
theorem emissionsAt_rel_of_below (hR : Piecewise R) {name : String} {nodes nodes' : List Node}
    (hbelow : ∀ inherited, R (s.emissionsBelow inherited nodes) (s.emissionsBelow inherited nodes'))
    (inherited : List Template) :
    R (s.emissionsAt inherited ⟨name, nodes⟩) (s.emissionsAt inherited ⟨name, nodes'⟩) := by
  rw [emissionsAt, emissionsAt]
  cases s.folder? name with
  | none => exact hbelow inherited
  | some f => exact hR.append (hR.refl _) (hbelow _)

end Spec

namespace Node

variable {n n' top top' : Node} {s : Spec} {R : List Emission → List Emission → Prop}

/-- What holds of the emissions of the edited node holds of those of the top. -/
theorem Replaces.emissionsAt_rel (h : Replaces n n' top top') (hR : Piecewise R)
    (hhere : ∀ inherited, R (s.emissionsAt inherited n) (s.emissionsAt inherited n')) :
    ∀ inherited, R (s.emissionsAt inherited top) (s.emissionsAt inherited top') := by
  induction h with
  | here => exact hhere
  | @under name before after child child' _ ih =>
      refine Spec.emissionsAt_rel_of_below hR fun inherited => ?_
      rw [Spec.emissionsBelow_append, Spec.emissionsBelow_append, Spec.emissionsBelow,
        Spec.emissionsBelow]
      exact hR.append (hR.refl _) (hR.append (ih inherited) (hR.refl _))

/-- The names below nodes in two lists are those below either. -/
theorem mem_namesOf_append {name : String} {nodes nodes' : List Node} :
    name ∈ namesOf (nodes ++ nodes') ↔ name ∈ namesOf nodes ∨ name ∈ namesOf nodes' := by
  induction nodes with
  | nil => simp [namesOf]
  | cons n rest ih => simp only [List.cons_append, namesOf, List.mem_append, ih, or_assoc]

/-- A name that the edit neither brings nor takes away is borne before and after, or
neither before nor after. -/
theorem Replaces.mem_names_iff (h : Replaces n n' top top') {name : String}
    (hhere : name ∈ n.names ↔ name ∈ n'.names) : name ∈ top.names ↔ name ∈ top'.names := by
  induction h with
  | here => exact hhere
  | under _ ih =>
      simp only [names, List.mem_cons, mem_namesOf_append, namesOf, List.mem_append, ih]

end Node

/-- **A specification emits what its nodes emit.**  If one node gives way to another one
whose emissions are related to its own, and no folder is named by one of the two alone,
then the emissions of the specification are related. -/
theorem Spec.emissions_rel {R : List Emission → List Emission → Prop} (hR : Piecewise R)
    {n n' root root' : Node} {folders : List Folder} (hnode : Node.Replaces n n' root root')
    (hhere : ∀ inherited, R (emissionsAt ⟨some root, folders⟩ inherited n)
      (emissionsAt ⟨some root, folders⟩ inherited n'))
    (hnames : ∀ f ∈ folders, f.name ∈ n.names ↔ f.name ∈ n'.names) :
    R (emissions ⟨some root, folders⟩) (emissions ⟨some root', folders⟩) := by
  have hfolders : (⟨some root, folders⟩ : Spec).folders = (⟨some root', folders⟩ : Spec).folders :=
    rfl
  have hroot : R (emissionsAt ⟨some root, folders⟩ [] root)
      (emissionsAt ⟨some root', folders⟩ [] root') := by
    rw [← emissionsAt_of_folders hfolders [] root']
    exact hnode.emissionsAt_rel hR hhere []
  have hstandalone : standalone ⟨some root, folders⟩ = standalone ⟨some root', folders⟩ := by
    refine List.filter_congr fun f hf => ?_
    have hiff := hnode.mem_names_iff (hnames f hf)
    simp only [nodeNames, List.contains_eq_mem, hiff]
  rw [emissions, emissions, hstandalone]
  exact hR.append hroot (hR.refl _)

end FolderGrants
