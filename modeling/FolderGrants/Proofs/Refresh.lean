import FolderGrants.Proofs.BindingComparison

/-!
# What a refresh settles

A binding is compared with the one that is wanted, and a refresh takes over what is
wanted.  The two are written apart, so it has to be seen that they fit: that the
comparison finds nothing left after a refresh, and that a refresh where it finds
nothing changes nothing that counts.  Role and subjects are taken over as they are,
whether the list of subjects is absent or empty; a label is taken over or left alone.

* `Binding.needsRefresh_refreshed` — nothing is left to refresh;
* `Binding.refreshed_refreshed` — nor does a second refresh do anything;
* `Binding.needsRefresh_eq_false_iff_refreshed` — where nothing is found, a refresh keeps
  all that counts, and nowhere else;
* `Binding.refresh_settles` — what a refresh does, all in all.
-/

namespace FolderGrants

namespace Binding

variable {existing desired : Binding}

/-- **After a refresh nothing is left to refresh.** -/
theorem needsRefresh_refreshed (existing desired : Binding) :
    (existing.refreshed desired).needsRefresh desired = false :=
  needsRefresh_eq_false_iff.2 (refreshed_serves existing desired)

/-- A refreshed binding has the wanted labels on top of those that it had. -/
theorem refreshed_labels (existing desired : Binding) :
    (existing.refreshed desired).labels = existing.labels.union desired.labels := rfl

/-- A second refresh does nothing. -/
theorem refreshed_refreshed (existing desired : Binding) :
    (existing.refreshed desired).refreshed desired = existing.refreshed desired := by
  have hlabels : (existing.refreshed desired).labels.union desired.labels =
      existing.labels.union desired.labels := by
    rw [refreshed_labels, OrderedMap.union_union_self]
  rw [refreshed, hlabels]
  rfl

/-- The labels stay what they are exactly if all that are wanted are there. -/
theorem refreshed_labels_eq_iff :
    (existing.refreshed desired).labels = existing.labels ↔
      ∀ l v, desired.labels.get? l = some v → existing.labels.get? l = some v := by
  rw [refreshed_labels, OrderedMap.union_eq_left_iff]

/-- **A binding needs no refresh exactly if a refresh keeps all that counts of it**: the
role, the number of subjects and which they are, and the labels. -/
theorem needsRefresh_eq_false_iff_refreshed :
    existing.needsRefresh desired = false ↔
      (existing.refreshed desired).roleRef = existing.roleRef ∧
        (existing.refreshed desired).subjectList.length = existing.subjectList.length ∧
        Subject.SameSet (existing.refreshed desired).subjectList existing.subjectList ∧
        (existing.refreshed desired).labels = existing.labels := by
  rw [needsRefresh_eq_false_iff, refreshed_labels_eq_iff, refreshed_roleRef,
    refreshed_subjectList]
  constructor
  · intro h
    exact ⟨h.roleRef.symm, h.length.symm, h.subjects.symm, h.labels⟩
  · intro h
    obtain ⟨hrole, hlength, hsubjects, hlabels⟩ := h
    exact ⟨hrole.symm, hlength.symm, hsubjects.symm, hlabels⟩

/-- **A refresh settles what it must and nothing else.**  Whatever two bindings are like,
the first one refreshed to the second needs no refresh any more, and a second refresh
leaves it as it is.  It has the subjects and the role of the second; it has each label
of the second with its value there, and all others that the first one has, with their
values, and none besides; all other metadata is that of the first one, so that its key
is.  And the first one needed no refresh exactly if all of this changes neither its
role, nor how many subjects it lists and which they are, nor its labels; a namespace or
a group of a subject that is absent counts as an empty one, as do labels and lists of
subjects. -/
theorem refresh_settles (existing desired : Binding) :
    (existing.refreshed desired).needsRefresh desired = false ∧
    (existing.refreshed desired).refreshed desired = existing.refreshed desired ∧
    (existing.refreshed desired).subjects = desired.subjects ∧
    (existing.refreshed desired).roleRef = desired.roleRef ∧
    (∀ l v, desired.labels.get? l = some v →
      (existing.refreshed desired).labels.get? l = some v) ∧
    (∀ l, desired.labels.get? l = none →
      (existing.refreshed desired).labels.get? l = existing.labels.get? l) ∧
    { (existing.refreshed desired).metadata with labels := existing.metadata.labels } =
      existing.metadata ∧
    (existing.refreshed desired).key = existing.key ∧
    (existing.needsRefresh desired = false ↔
      (existing.refreshed desired).roleRef = existing.roleRef ∧
        (existing.refreshed desired).subjectList.length = existing.subjectList.length ∧
        Subject.SameSet (existing.refreshed desired).subjectList existing.subjectList ∧
        (existing.refreshed desired).labels = existing.labels) := by
  have hserves := refreshed_serves existing desired
  have hother : ∀ l, desired.labels.get? l = none →
      (existing.refreshed desired).labels.get? l = existing.labels.get? l := by
    intro l hl
    rw [refreshed_labels_get?, hl, Option.none_or]
  exact ⟨needsRefresh_refreshed existing desired, refreshed_refreshed existing desired, rfl, rfl,
    hserves.labels, hother, rfl, rfl, needsRefresh_eq_false_iff_refreshed⟩

/-- What a ward wants of the binding for its rota. -/
def wantedRota : Binding :=
  (⟨"ward", none⟩ : Builder).build
    ⟨"rota", [.user "ada", { kind := "ServiceAccount", name := "bot" }], .clusterRole "edit", none⟩
    "ward-ns"

/-- What others have made of it: another role, a subject twice, the label of another
tree, and a label and a note of their own. -/
def staleRota : Binding where
  metadata :=
    { name := some "foldertree-ward-rota"
      ns := some "ward-ns"
      labels := some (.ofList [("team", "night"), (treeLabel, "clinic")])
      annotations := some (.ofList [("note", "do not touch")])
      resourceVersion := some "7" }
  subjects := some [.user "eve", .user "eve"]
  roleRef := .clusterRole "view"

/-- A rota that only looks different: its subjects are listed in another order, with an
empty group in place of an absent one, and it has a label of its own. -/
def keptRota : Binding :=
  { wantedRota with
    metadata :=
      { wantedRota.metadata with labels := some (wantedRota.labels.insert "team" "night") }
    subjects :=
      some [{ kind := "ServiceAccount", name := "bot", apiGroup := some "" }, .user "ada"] }

theorem refresh_settles_rota :
    staleRota.needsRefresh wantedRota = true ∧
      (staleRota.refreshed wantedRota).needsRefresh wantedRota = false ∧
      (staleRota.refreshed wantedRota).key = staleRota.key ∧
      (staleRota.refreshed wantedRota).labels.get? treeLabel = some "ward" ∧
      (staleRota.refreshed wantedRota).labels.get? "team" = some "night" ∧
      keptRota.needsRefresh wantedRota = false ∧ keptRota.subjects ≠ wantedRota.subjects ∧
      Subject.SameSet (keptRota.refreshed wantedRota).subjectList keptRota.subjectList ∧
      (keptRota.refreshed wantedRota).labels = keptRota.labels := by
  obtain ⟨hdone, -, -, -, hwanted, hother, -, hkey, -⟩ := refresh_settles staleRota wantedRota
  obtain ⟨-, -, -, -, -, -, -, -, hkept⟩ := refresh_settles keptRota wantedRota
  have hfine : keptRota.needsRefresh wantedRota = false := by decide
  obtain ⟨-, -, hsubjects, hlabels⟩ := hkept.1 hfine
  exact ⟨by decide, hdone, hkey, hwanted treeLabel "ward" (by decide), hother "team" (by decide),
    hfine, by decide, hsubjects, hlabels⟩

end Binding

end FolderGrants
