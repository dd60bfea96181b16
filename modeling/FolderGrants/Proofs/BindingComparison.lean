import FolderGrants.Binding.Basic
import FolderGrants.Proofs.MapLookup

/-!
# Comparing role bindings

When two lists of subjects name the same ones, when two bindings give the
same access, and what a refresh has to do with both.  Names, namespaces and
groups of subjects are compared with absent ones read as empty.

* `Subject.SameSet` — the same subjects, however often and in whatever order;
* `Binding.SameAccess` — the same role for the same subjects in the same
  namespace;
* `Binding.Serves` — a binding does all that another one is wanted for;
* `Binding.needsRefresh_eq_false_iff` — what needs no refresh serves;
* `Binding.refreshed_serves` — what has been refreshed serves.
-/

namespace FolderGrants

namespace Subject

/-- Two lists name the same subjects. -/
def SameSet (a b : List Subject) : Prop :=
  ∀ i, i ∈ a.map identity ↔ i ∈ b.map identity

variable {a b c : List Subject}

theorem SameSet.refl (a : List Subject) : SameSet a a := fun _ => Iff.rfl

theorem SameSet.symm (h : SameSet a b) : SameSet b a := fun i => (h i).symm

theorem SameSet.trans (hab : SameSet a b) (hbc : SameSet b c) : SameSet a c :=
  fun i => (hab i).trans (hbc i)

/-- Lists compare equal if they are equally long and name the same subjects. -/
theorem sameList_iff : sameList a b = true ↔ a.length = b.length ∧ SameSet a b := by
  simp only [sameList, Bool.and_eq_true, beq_iff_eq, List.all_eq_true, List.any_eq_true,
    and_assoc]
  refine and_congr_right fun _ => ?_
  constructor
  · intro h i
    obtain ⟨hab, hba⟩ := h
    constructor
    · intro hi
      obtain ⟨s, hs, rfl⟩ := List.mem_map.1 hi
      obtain ⟨t, ht, heq⟩ := hab s hs
      exact heq ▸ List.mem_map_of_mem ht
    · intro hi
      obtain ⟨s, hs, rfl⟩ := List.mem_map.1 hi
      obtain ⟨t, ht, heq⟩ := hba s hs
      exact heq ▸ List.mem_map_of_mem ht
  · intro h
    constructor
    · intro s hs
      obtain ⟨t, ht, heq⟩ := List.mem_map.1 ((h s.identity).1 (List.mem_map_of_mem hs))
      exact ⟨t, ht, heq.symm⟩
    · intro s hs
      obtain ⟨t, ht, heq⟩ := List.mem_map.1 ((h s.identity).2 (List.mem_map_of_mem hs))
      exact ⟨t, ht, heq.symm⟩

end Subject

namespace Binding

/-- Two bindings give the same role to the same subjects in the same namespace. -/
structure SameAccess (a b : Binding) : Prop where
  ns : a.key.ns = b.key.ns
  roleRef : a.roleRef = b.roleRef
  subjects : Subject.SameSet a.subjectList b.subjectList

theorem SameAccess.refl (b : Binding) : b.SameAccess b := ⟨rfl, rfl, .refl _⟩

theorem SameAccess.symm {a b : Binding} (h : a.SameAccess b) : b.SameAccess a :=
  ⟨h.ns.symm, h.roleRef.symm, h.subjects.symm⟩

theorem SameAccess.trans {a b c : Binding} (hab : a.SameAccess b) (hbc : b.SameAccess c) :
    a.SameAccess c :=
  ⟨hab.ns.trans hbc.ns, hab.roleRef.trans hbc.roleRef, hab.subjects.trans hbc.subjects⟩

/-- `b` does what `want` is wanted for: the role, as many subjects and the same
ones, and every label. -/
structure Serves (b want : Binding) : Prop where
  roleRef : b.roleRef = want.roleRef
  length : b.subjectList.length = want.subjectList.length
  subjects : Subject.SameSet b.subjectList want.subjectList
  labels : ∀ l v, want.labels.get? l = some v → b.labels.get? l = some v

theorem Serves.refl (b : Binding) : b.Serves b := ⟨rfl, rfl, .refl _, fun _ _ h => h⟩

/-- What serves as a binding, in its namespace, gives its access. -/
theorem Serves.sameAccess {b want : Binding} (h : b.Serves want) (hns : b.key.ns = want.key.ns) :
    b.SameAccess want :=
  ⟨hns, h.roleRef, h.subjects⟩

/-- A binding needs no refresh exactly if it serves already. -/
theorem needsRefresh_eq_false_iff {existing desired : Binding} :
    existing.needsRefresh desired = false ↔ existing.Serves desired := by
  have hlabels :
      (desired.labels.entries.any fun e => existing.labels.get? e.1 != some e.2) = false ↔
        ∀ l v, desired.labels.get? l = some v → existing.labels.get? l = some v := by
    simp [List.any_eq_false, OrderedMap.mem_entries_iff]
  simp only [needsRefresh, Bool.or_eq_false_iff, Bool.not_eq_false', bne_eq_false_iff_eq,
    Subject.sameList_iff, hlabels]
  constructor
  · intro h
    obtain ⟨⟨⟨hlength, hsubjects⟩, hrole⟩, hlabels⟩ := h
    exact ⟨hrole, hlength, hsubjects, hlabels⟩
  · intro h
    obtain ⟨hrole, hlength, hsubjects, hlabels⟩ := h
    exact ⟨⟨⟨hlength, hsubjects⟩, hrole⟩, hlabels⟩

/-- A refreshed binding stays where it is. -/
@[simp] theorem refreshed_key (existing desired : Binding) :
    (existing.refreshed desired).key = existing.key := rfl

/-- It has the wanted role. -/
@[simp] theorem refreshed_roleRef (existing desired : Binding) :
    (existing.refreshed desired).roleRef = desired.roleRef := rfl

/-- It has the wanted subjects. -/
@[simp] theorem refreshed_subjectList (existing desired : Binding) :
    (existing.refreshed desired).subjectList = desired.subjectList := rfl

/-- Its labels are the wanted ones and, under other names, those that it had. -/
theorem refreshed_labels_get? (existing desired : Binding) (l : String) :
    (existing.refreshed desired).labels.get? l =
      (desired.labels.get? l).or (existing.labels.get? l) :=
  OrderedMap.get?_union _ _ l

/-- A refreshed binding serves. -/
theorem refreshed_serves (existing desired : Binding) :
    (existing.refreshed desired).Serves desired where
  roleRef := rfl
  length := rfl
  subjects := .refl _
  labels l v h := by rw [refreshed_labels_get?, h, Option.some_or]

/-- The three labels of a binding for a tree and a template, and no other. -/
theorem trackingLabels_get?_eq_some_iff {tree template l v : String} :
    (trackingLabels tree template).get? l = some v ↔
      l = managedByLabel ∧ v = manager ∨ l = treeLabel ∧ v = tree ∨
        l = templateLabel ∧ v = template := by
  have hlabels : [managedByLabel, treeLabel, templateLabel].Nodup := by decide
  have hnodup : ([(managedByLabel, manager), (treeLabel, tree), (templateLabel, template)].map
      (·.1)).Nodup := hlabels
  rw [trackingLabels, OrderedMap.get?_ofList_eq_some_iff hnodup]
  simp

end Binding

end FolderGrants
