import FolderGrants.Proofs.Conflicts
import Mathlib.Data.List.Forall2

/-!
# The order of subjects

If the subjects of templates are reordered and nothing else is touched, the walk goes
through the same folders in the same order and emits, place by place, the same templates
but for the order of their subjects.  The first emission of a key is then in the same
place, so the desired sets agree key by key, up to that order.  Folder names may repeat.

* `Spec.Shuffles` — two specifications differ in the order of subjects at most;
* `Spec.Shuffles.emissions` — so do their emissions, place by place;
* `FolderTree.exists_desired_of_shuffles` — and so do the desired sets.
-/

namespace FolderGrants

/-- Two templates differ in the order of their subjects at most. -/
structure Template.Shuffles (m m' : Template) : Prop where
  name : m.name = m'.name
  subjects : m.subjects.Perm m'.subjects
  roleRef : m.roleRef = m'.roleRef
  propagate : m.propagate = m'.propagate

/-- Two folders differ in the order of subjects at most. -/
structure Folder.Shuffles (f f' : Folder) : Prop where
  name : f.name = f'.name
  templates : List.Forall₂ Template.Shuffles f.templates f'.templates
  namespaces : f.namespaces = f'.namespaces

/-- Two specifications differ in the order of subjects at most. -/
structure Spec.Shuffles (s s' : Spec) : Prop where
  root : s.root = s'.root
  folders : List.Forall₂ Folder.Shuffles s.folders s'.folders

/-- Two emissions differ in the order of subjects at most. -/
structure Emission.Shuffles (e e' : Emission) : Prop where
  folder : e.folder = e'.folder
  template : e.template.Shuffles e'.template
  ns : e.ns = e'.ns

/-- Two grants differ in the order of subjects at most. -/
structure Grant.Shuffles (g g' : Grant) : Prop where
  roleRef : g.binding.roleRef = g'.binding.roleRef
  subjects : g.binding.subjectList.Perm g'.binding.subjectList

theorem Template.Shuffles.refl (m : Template) : m.Shuffles m := ⟨rfl, .refl _, rfl, rfl⟩

theorem Folder.Shuffles.refl (f : Folder) : f.Shuffles f :=
  ⟨rfl, List.forall₂_same.2 fun m _ => .refl m, rfl⟩

theorem Spec.Shuffles.refl (s : Spec) : s.Shuffles s :=
  ⟨rfl, List.forall₂_same.2 fun f _ => .refl f⟩

/-- The first elements of related lists are related. -/
theorem rel_head? {α β : Type} {R : α → β → Prop} {l : List α} {l' : List β}
    (h : List.Forall₂ R l l') : Option.Rel R l.head? l'.head? := by
  cases h with
  | nil => exact .none
  | cons hhead _ => exact .some hhead

/-- Related values are sent to related values. -/
theorem rel_option_map {α β γ δ : Type} {R : α → β → Prop} {S : γ → δ → Prop} {f : α → γ}
    {g : β → δ} {o : Option α} {o' : Option β} (h : Option.Rel R o o')
    (hfg : ∀ a b, R a b → S (f a) (g b)) : Option.Rel S (o.map f) (o'.map g) := by
  cases h with
  | none => exact .none
  | some hab => exact .some (hfg _ _ hab)

/-- Of two related values both are there, or neither. -/
theorem exists_iff_of_rel {α β : Type} {R : α → β → Prop} {o : Option α} {o' : Option β}
    (h : Option.Rel R o o') : (∃ a, o = some a) ↔ ∃ b, o' = some b := by
  cases h with
  | none => simp
  | some _ => simp

/-- Every element of a list is related to one of a related list. -/
theorem exists_rel_of_mem {α β : Type} {R : α → β → Prop} {l : List α} {l' : List β}
    (h : List.Forall₂ R l l') {b : β} (hb : b ∈ l') : ∃ a ∈ l, R a b := by
  induction h with
  | nil => cases hb
  | @cons a b' l l' hhead _ ih =>
      rcases List.mem_cons.1 hb with rfl | hb
      · exact ⟨a, List.mem_cons_self, hhead⟩
      · obtain ⟨a', ha', hrel⟩ := ih hb
        exact ⟨a', List.mem_cons_of_mem _ ha', hrel⟩

/-- Reordered subjects give the same grant. -/
theorem Template.Shuffles.sameGrant {m m' : Template} (h : m.Shuffles m') :
    m.sameGrant m' = true :=
  (sameGrant_iff m m').2 ⟨h.roleRef, fun _ => h.subjects.mem_iff⟩

namespace Folder.Shuffles

variable {f f' : Folder} {ts ts' : List Template}

/-- Folders that differ in the order of subjects hand down templates that do. -/
theorem handedDown (h : f.Shuffles f') :
    List.Forall₂ Template.Shuffles f.handedDown f'.handedDown := by
  refine List.rel_filter (fun m m' hm => ?_) h.templates
  show m.propagates = true ↔ m'.propagates = true
  rw [Template.propagates, Template.propagates, hm.propagate]

/-- They emit grants that differ in the order of subjects. -/
theorem emit (h : f.Shuffles f') (hts : List.Forall₂ Template.Shuffles ts ts') :
    List.Forall₂ Emission.Shuffles (f.emit ts) (f'.emit ts') := by
  rw [Folder.emit, Folder.emit, h.namespaces]
  refine List.rel_flatMap (List.forall₂_same.2 fun ns _ => rfl) fun ns ns' hns => ?_
  exact List.rel_map (fun m m' hm => ⟨h.name, hm, hns⟩) hts

end Folder.Shuffles

namespace Spec.Shuffles

variable {s s' : Spec}

/-- A name is used for related folders. -/
theorem folder? (h : s.Shuffles s') (name : String) :
    Option.Rel Folder.Shuffles (s.folder? name) (s'.folder? name) := by
  rw [Spec.folder?, Spec.folder?, List.getLast?_eq_head?_reverse, List.getLast?_eq_head?_reverse]
  refine rel_head? (List.rel_reverse (List.rel_filter (fun f f' hf => ?_) h.folders))
  show (f.name == name) = true ↔ (f'.name == name) = true
  rw [hf.name]

mutual

/-- Below a node, specifications that differ in the order of subjects emit what differs in
nothing else. -/
theorem emissionsAt (h : s.Shuffles s') :
    ∀ {inherited inherited' : List Template} (n : Node),
      List.Forall₂ Template.Shuffles inherited inherited' →
        List.Forall₂ Emission.Shuffles (s.emissionsAt inherited n) (s'.emissionsAt inherited' n)
  | inherited, inherited', ⟨name, subfolders⟩, hinherited => by
      rw [Spec.emissionsAt, Spec.emissionsAt]
      have hfolder := h.folder? name
      revert hfolder
      rcases s.folder? name with _ | f <;> rcases s'.folder? name with _ | f' <;> intro hfolder
      · exact emissionsBelow h subfolders hinherited
      · cases hfolder
      · cases hfolder
      · cases hfolder with
        | some hf =>
            exact List.rel_append (hf.emit (List.rel_append hinherited hf.templates))
              (emissionsBelow h subfolders (List.rel_append hinherited hf.handedDown))

/-- So they do below a list of nodes. -/
theorem emissionsBelow (h : s.Shuffles s') :
    ∀ {inherited inherited' : List Template} (nodes : List Node),
      List.Forall₂ Template.Shuffles inherited inherited' →
        List.Forall₂ Emission.Shuffles (s.emissionsBelow inherited nodes)
          (s'.emissionsBelow inherited' nodes)
  | _, _, [], _ => by
      rw [Spec.emissionsBelow, Spec.emissionsBelow]
      exact .nil
  | _, _, n :: rest, hinherited => by
      rw [Spec.emissionsBelow, Spec.emissionsBelow]
      exact List.rel_append (emissionsAt h n hinherited) (emissionsBelow h rest hinherited)

end

/-- **The emissions are the same, place by place, up to the order of subjects.** -/
theorem emissions (h : s.Shuffles s') :
    List.Forall₂ Emission.Shuffles s.emissions s'.emissions := by
  have hnames : s.nodeNames = s'.nodeNames := by rw [nodeNames, nodeNames, h.root]
  have hstandalone : List.Forall₂ Folder.Shuffles s.standalone s'.standalone := by
    refine List.rel_filter (fun f f' hf => ?_) h.folders
    show (!s.nodeNames.contains f.name) = true ↔ (!s'.nodeNames.contains f'.name) = true
    rw [hf.name, hnames]
  rw [Spec.emissions, Spec.emissions, h.root]
  refine List.rel_append ?_ (List.rel_flatMap hstandalone fun f f' hf => hf.emit hf.templates)
  cases s'.root with
  | none => exact .nil
  | some root => exact emissionsAt h root .nil

end Spec.Shuffles

namespace Emission.Shuffles

variable {e e' : Emission}

/-- Emissions that differ in the order of subjects have one key. -/
theorem key (h : e.Shuffles e') (b : Builder) : e.key b = e'.key b := by
  rw [Emission.key, Emission.key, h.ns, h.template.name]

/-- They make grants that differ in the order of subjects. -/
theorem grant (h : e.Shuffles e') (b : Builder) : (e.grant b).Shuffles (e'.grant b) :=
  ⟨h.template.roleRef, h.template.subjects⟩

end Emission.Shuffles

namespace DesiredSet

variable {b : Builder} {es es' : List Emission} {set set' : DesiredSet}

/-- Where emissions collapse, they also do with their subjects reordered. -/
theorem Collapses.exists_shuffled (h : Collapses b es set)
    (hes : List.Forall₂ Emission.Shuffles es es') : ∃ set', Collapses b es' set' := by
  cases hadd : addAll b es' .empty with
  | ok set' => exact ⟨set', collapses_nil.addAll_eq_ok_iff.1 hadd⟩
  | error c =>
      obtain ⟨before, last, after, hsplit, -, ⟨first, hfirst, hcontra⟩, -⟩ :=
        collapses_nil.addAll_eq_error_iff.1 hadd
      obtain ⟨hkey, hother⟩ := (Emission.contradicts_iff b).1 hcontra
      have hmem : first ∈ es' := hsplit ▸ List.mem_append_left _ hfirst
      have hmem' : last ∈ es' := hsplit ▸ List.mem_append_right _ List.mem_cons_self
      obtain ⟨e, he, hshuffles⟩ := exists_rel_of_mem hes hmem
      obtain ⟨e', he', hshuffles'⟩ := exists_rel_of_mem hes hmem'
      have hsame := h.same e he e' he' (by rw [hshuffles.key, hshuffles'.key, hkey])
      have hsame' := Template.sameGrant_trans (Template.sameGrant_symm hshuffles.template.sameGrant)
        (Template.sameGrant_trans hsame hshuffles'.template.sameGrant)
      rw [hsame'] at hother
      cases hother

/-- The first emission of a key stands in the same place. -/
theorem Collapses.shuffled (h : Collapses b es set) (h' : Collapses b es' set')
    (hes : List.Forall₂ Emission.Shuffles es es') (k : BindingKey) :
    Option.Rel Grant.Shuffles (set.get? k) (set'.get? k) := by
  rw [h.get?_eq, h'.get?_eq, ← List.head?_filter, ← List.head?_filter]
  have hfirst := rel_head? (List.rel_filter (p := fun e : Emission => e.key b = k)
    (q := fun e : Emission => e.key b = k) (fun e e' he => by simp [he.key b]) hes)
  exact rel_option_map hfirst fun e e' he => he.grant b

end DesiredSet

namespace FolderTree

/-- **Reordered subjects are granted alike.**  A tree has a desired set if a tree has
one that differs in the order of subjects at most; the two have the same keys, each with
the same role and the same subjects up to their order. -/
theorem exists_desired_of_shuffles {t t' : FolderTree} (h : t.spec.Shuffles t'.spec)
    {b : Builder} {set : DesiredSet} (hset : t.desired b = .ok set) :
    ∃ set', t'.desired b = .ok set' ∧
      ∀ k, Option.Rel Grant.Shuffles (set.get? k) (set'.get? k) := by
  have hcollapses := desired_eq_ok_iff.1 hset
  obtain ⟨set', hset'⟩ := hcollapses.exists_shuffled h.emissions
  exact ⟨set', desired_eq_ok_iff.2 hset', hcollapses.shuffled hset' h.emissions⟩

end FolderTree

end FolderGrants
