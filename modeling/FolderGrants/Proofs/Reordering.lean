import FolderGrants.Proofs.Edits
import Mathlib.Logic.Relation

/-!
# The order of a specification

A specification is a tree of lists: of folders, of subfolders, of templates, of
namespaces and of subjects.  The walk goes through them in order and the first emission
of a key makes its grant, so reordering a list changes which folder and which template
a grant is put down to.  It does not change what is granted: which emissions there are
depends on what the lists hold, if every folder name is used once, and all emissions
of one key give the same grant.

* `Spec.Reorder` — one list is permuted;
* `Spec.Reorder.embeds` — a step loses nothing, and can be taken back;
* `Spec.embeds_of_reorderings` — nor do any number of steps;
* `FolderTree.reordered_grants_alike` — the desired sets before and after.
-/

namespace FolderGrants

namespace Spec

variable {s s' : Spec}

/-- One list of a specification is permuted. -/
inductive Reorder : Spec → Spec → Prop
  /-- The folders. -/
  | folders {root : Option Node} {l l' : List Folder} (hperm : l.Perm l') :
      Reorder ⟨root, l⟩ ⟨root, l'⟩
  /-- The subfolders of a node, wherever it stands. -/
  | subfolders {root root' : Node} {folders : List Folder} {name : String} {l l' : List Node}
      (hperm : l.Perm l') (hnode : Node.Replaces ⟨name, l⟩ ⟨name, l'⟩ root root') :
      Reorder ⟨some root, folders⟩ ⟨some root', folders⟩
  /-- The templates of a folder. -/
  | templates {s s' : Spec} {name : String} {namespaces : List String} {l l' : List Template}
      (hperm : l.Perm l')
      (hentry : Replaces ⟨name, l, namespaces⟩ ⟨name, l', namespaces⟩ s s') : Reorder s s'
  /-- The namespaces of a folder. -/
  | namespaces {s s' : Spec} {name : String} {templates : List Template} {l l' : List String}
      (hperm : l.Perm l') (hentry : Replaces ⟨name, templates, l⟩ ⟨name, templates, l'⟩ s s') :
      Reorder s s'
  /-- The subjects of a template. -/
  | subjects {s s' : Spec} {name : String} {namespaces : List String}
      {before after : List Template} {m : Template} {l : List Subject}
      (hperm : m.subjects.Perm l)
      (hentry : Replaces ⟨name, before ++ m :: after, namespaces⟩
        ⟨name, before ++ { m with subjects := l } :: after, namespaces⟩ s s') : Reorder s s'

theorem Reorder.symm (h : s.Reorder s') : s'.Reorder s := by
  cases h with
  | folders hperm => exact .folders hperm.symm
  | subfolders hperm hnode => exact .subfolders hperm.symm hnode.symm
  | templates hperm hentry => exact .templates hperm.symm hentry.symm
  | namespaces hperm hentry => exact .namespaces hperm.symm hentry.symm
  | subjects hperm hentry => exact .subjects hperm.symm hentry.symm

/-- The names stay, though not always in order. -/
theorem Reorder.distinctNames (h : s.Reorder s') (hdistinct : s.DistinctNames) :
    s'.DistinctNames := by
  have hnames : (s.folders.map Folder.name).Perm (s'.folders.map Folder.name) := by
    cases h with
    | folders hperm => exact hperm.map _
    | subfolders _ _ => exact .refl _
    | templates _ hentry => exact .of_eq (hentry.names_eq rfl)
    | namespaces _ hentry => exact .of_eq (hentry.names_eq rfl)
    | subjects _ hentry => exact .of_eq (hentry.names_eq rfl)
  exact hnames.nodup_iff.1 hdistinct

/-- If names are used once, it does not matter where in the list a folder stands. -/
theorem embeds_of_perm {root : Option Node} {l l' : List Folder} (hperm : l.Perm l')
    (hdistinct : DistinctNames ⟨root, l'⟩) : Embeds ⟨root, l⟩ ⟨root, l'⟩ where
  routes _ _ hroute := hroute
  folders name f hf := by
    obtain ⟨hlisted, hname⟩ := folder?_eq_some hf
    have hfound := hdistinct.folder?_eq (hperm.mem_iff.1 hlisted)
    exact ⟨f, hname ▸ hfound, .refl f⟩

/-- **A list that is permuted loses nothing.** -/
theorem Reorder.embeds (h : s.Reorder s') (hdistinct : s.DistinctNames) : s.Embeds s' := by
  have hdistinct' := h.distinctNames hdistinct
  cases h with
  | folders hperm => exact embeds_of_perm hperm hdistinct'
  | subfolders hperm hnode =>
      exact embeds_of_nodes hnode rfl fun _ _ => Node.route_of_subset hperm.subset
  | templates hperm hentry =>
      exact hentry.embeds rfl (Folder.coveredBy_of_subset hperm.subset (List.Subset.refl _))
  | namespaces hperm hentry =>
      exact hentry.embeds rfl (Folder.coveredBy_of_subset (List.Subset.refl _) hperm.subset)
  | @subjects s s' name namespaces before after m l hperm hentry =>
      have hsame : m.sameGrant { m with subjects := l } = true :=
        (Template.sameGrant_iff _ _).2 ⟨rfl, fun _ => hperm.mem_iff⟩
      exact hentry.embeds rfl (Folder.coveredBy_of_template ⟨rfl, hsame, id⟩)

/-- Names are used once after any number of reorderings. -/
theorem distinctNames_of_reorderings (h : Relation.ReflTransGen Reorder s s')
    (hdistinct : s.DistinctNames) : s'.DistinctNames := by
  induction h with
  | refl => exact hdistinct
  | tail _ hstep ih => exact hstep.distinctNames ih

/-- Any number of reorderings loses nothing. -/
theorem embeds_of_reorderings (h : Relation.ReflTransGen Reorder s s')
    (hdistinct : s.DistinctNames) : s.Embeds s' := by
  induction h with
  | refl => exact .refl s
  | tail hsteps hstep ih =>
      exact ih.trans (hstep.embeds (distinctNames_of_reorderings hsteps hdistinct))

/-- Reorderings can be taken back. -/
theorem reorderings_symm (h : Relation.ReflTransGen Reorder s s') :
    Relation.ReflTransGen Reorder s' s := by
  induction h with
  | refl => exact .refl
  | tail _ hstep ih => exact .head hstep.symm ih

end Spec

namespace FolderTree

/-- **Order does not change what is granted.**  If every folder name of a tree is used
once, and another tree comes from it by permuting its folders, the subfolders of nodes,
the templates and namespaces of folders and the subjects of templates, one after the
other in any number, then the one has a desired set if and only if the other has, and
these have the same keys, each with the same role and the same subjects. -/
theorem reordered_grants_alike {t t' : FolderTree} (hdistinct : t.spec.DistinctNames)
    (hreorder : Relation.ReflTransGen Spec.Reorder t.spec t'.spec) (b : Builder) :
    ((∃ set, t.desired b = .ok set) ↔ ∃ set', t'.desired b = .ok set') ∧
      ∀ set set', t.desired b = .ok set → t'.desired b = .ok set' →
        (∀ k, k ∈ set.keys ↔ k ∈ set'.keys) ∧
          ∀ k g g', set.get? k = some g → set'.get? k = some g' → g.SameGrant g' := by
  have hdistinct' := Spec.distinctNames_of_reorderings hreorder hdistinct
  have hcovers := (Spec.embeds_of_reorderings hreorder hdistinct).covers hdistinct
  have hcovers' := (Spec.embeds_of_reorderings (Spec.reorderings_symm hreorder)
    hdistinct').covers hdistinct'
  refine ⟨⟨fun h => ?_, fun h => ?_⟩, fun set set' hset hset' =>
    ⟨fun k => ⟨mem_keys_of_covers hcovers hset hset', mem_keys_of_covers hcovers' hset' hset⟩,
      fun k g g' hg hg' => ?_⟩⟩
  · obtain ⟨set, hset⟩ := h
    obtain ⟨set', hset', -⟩ := exists_desired_of_covers hcovers' hset
    exact ⟨set', hset'⟩
  · obtain ⟨set', hset'⟩ := h
    obtain ⟨set, hset, -⟩ := exists_desired_of_covers hcovers hset'
    exact ⟨set, hset⟩
  · obtain ⟨found, hfound, hsame⟩ := grant_of_covers hcovers hset hset' hg
    obtain rfl := Option.some.inj (hg'.symm.trans hfound)
    exact hsame

/-- The template that lets nurses care for patients. -/
def careBy (subjects : List Subject) : Template :=
  ⟨"care", subjects, .clusterRole "edit", some true⟩

/-- The template that lets auditors have a look. -/
def auditView : Template := ⟨"view", [.group "audit"], .clusterRole "view", none⟩

/-- The two wards of a clinic share a namespace. -/
def northWard : Folder := { name := "north", namespaces := ["shared"] }

/-- The clinic has its templates at the top. -/
def wards (templates : List Template) : Folder := { name := "wards", templates := templates }

/-- The second ward has a namespace of its own as well. -/
def southWard (namespaces : List String) : Folder := { name := "south", namespaces := namespaces }

/-- A clinic. -/
def clinic : FolderTree where
  metadata := { name := some "clinic" }
  spec :=
    ⟨some ⟨"wards", [⟨"north", []⟩, ⟨"south", []⟩]⟩,
      [wards [careBy [.user "ada", .group "nurses"], auditView], northWard,
       southWard ["shared", "south-ns"]]⟩

/-- The clinic, each list in another order. -/
def clinicReordered : FolderTree where
  metadata := { name := some "clinic" }
  spec :=
    ⟨some ⟨"wards", [⟨"south", []⟩, ⟨"north", []⟩]⟩,
      [northWard, wards [auditView, careBy [.group "nurses", .user "ada"]],
       southWard ["south-ns", "shared"]]⟩

theorem reordered_grants_alike_clinic :
    ∃ set set', clinic.desired ⟨"clinic", none⟩ = .ok set ∧
      clinicReordered.desired ⟨"clinic", none⟩ = .ok set' ∧
      (set.get? ⟨"shared", "foldertree-clinic-care"⟩).map (·.folder) = some "north" ∧
      (set'.get? ⟨"shared", "foldertree-clinic-care"⟩).map (·.folder) = some "south" ∧
      (∀ k, k ∈ set.keys ↔ k ∈ set'.keys) ∧
      ∀ k g g', set.get? k = some g → set'.get? k = some g' → g.SameGrant g' := by
  have hreorder : Relation.ReflTransGen Spec.Reorder clinic.spec clinicReordered.spec :=
    .head (.subfolders (.swap _ _ _) .here) <|
    .head (.folders (.swap _ _ _)) <|
    .head (.templates (.swap _ _ _) (.entry _ [northWard] _)) <|
    .head (@Spec.Reorder.subjects _ _ "wards" [] [auditView] [] (careBy _) _ (.swap _ _ _)
      (.entry _ [northWard] [_])) <|
    .single (.namespaces (.swap _ _ _) (.entry _ [northWard, _] []))
  have halike := (reordered_grants_alike (by decide) hreorder ⟨"clinic", none⟩).2 _ _ rfl rfl
  exact ⟨_, _, rfl, rfl, rfl, rfl, halike⟩

end FolderTree

end FolderGrants
