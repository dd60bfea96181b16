import FolderGrants.Proofs.Edits
import Mathlib.Logic.Relation

/-!
# A specification that grows

Who adds to a specification, and takes nothing out, does not expect anybody to lose
access.  Two additions look as if they could do that.  A child node may name a folder
that stood alone, which is walked from then on and inherits; and a folder may get the
name of a node that had none, so that what the walk passed through hands templates down.
But a folder that is named emits its own templates like one that stands alone, and what
comes from above comes on top.

* `Spec.Addition` — one thing is added to a specification;
* `Spec.Addition.embeds`, `Spec.embeds_of_additions` — no route and no folder is lost;
* `FolderTree.grants_kept_as_it_grows` — nor is a grant, unless the result conflicts.
-/

namespace FolderGrants

namespace Spec

variable {s s' : Spec}

/-- One thing is added to a specification. -/
inductive Addition : Spec → Spec → Prop
  /-- A child, with all that is below it, of a node anywhere in the hierarchy. -/
  | newChild {root root' : Node} {folders : List Folder} {name : String} {before after : List Node}
      {new : Node} (hnode : Node.Replaces ⟨name, before ++ after⟩ ⟨name, before ++ new :: after⟩
        root root') : Addition ⟨some root, folders⟩ ⟨some root', folders⟩
  /-- A folder of a new name, which a node may have already. -/
  | newFolder {root : Option Node} {before after : List Folder} {new : Folder}
      (hnew : ∀ f ∈ before ++ after, f.name ≠ new.name) :
      Addition ⟨root, before ++ after⟩ ⟨root, before ++ new :: after⟩
  /-- A template of a folder. -/
  | newTemplate {s s' : Spec} {name : String} {namespaces : List String}
      {before after : List Template} {new : Template}
      (hentry : Replaces ⟨name, before ++ after, namespaces⟩
        ⟨name, before ++ new :: after, namespaces⟩ s s') : Addition s s'
  /-- A namespace of a folder. -/
  | newNamespace {s s' : Spec} {name : String} {templates : List Template}
      {before after : List String} {new : String}
      (hentry : Replaces ⟨name, templates, before ++ after⟩
        ⟨name, templates, before ++ new :: after⟩ s s') : Addition s s'
  /-- A template is handed down from now on. -/
  | propagation {s s' : Spec} {name : String} {namespaces : List String}
      {before after : List Template} {m : Template}
      (hentry : Replaces ⟨name, before ++ m :: after, namespaces⟩
        ⟨name, before ++ { m with propagate := some true } :: after, namespaces⟩ s s') :
      Addition s s'

/-- One more element leaves all others in the list. -/
theorem subset_insertion {α : Type} {before after : List α} {new : α} :
    before ++ after ⊆ before ++ new :: after :=
  ((List.sublist_cons_self new after).append_left before).subset

/-- What is looked up is not hidden by a folder of another name. -/
theorem embeds_of_new_folder {root : Option Node} {before after : List Folder} {new : Folder}
    (hnew : ∀ f ∈ before ++ after, f.name ≠ new.name) :
    Embeds ⟨root, before ++ after⟩ ⟨root, before ++ new :: after⟩ where
  routes _ _ hroute := hroute
  folders name f hf := by
    obtain ⟨hlisted, hname⟩ := folder?_eq_some hf
    have hother : new.name ≠ name := hname ▸ (hnew f hlisted).symm
    refine ⟨f, ?_, .refl f⟩
    rw [← hf, folder?_append, folder?_append, folder?_cons, if_neg hother, Option.or_none]

/-- **One addition loses nothing.** -/
theorem Addition.embeds (h : s.Addition s') : s.Embeds s' := by
  cases h with
  | newChild hnode =>
      exact embeds_of_nodes hnode rfl fun _ _ => Node.route_of_subset subset_insertion
  | newFolder hnew => exact embeds_of_new_folder hnew
  | newTemplate hentry =>
      exact hentry.embeds rfl (Folder.coveredBy_of_subset subset_insertion (List.Subset.refl _))
  | newNamespace hentry =>
      exact hentry.embeds rfl (Folder.coveredBy_of_subset (List.Subset.refl _) subset_insertion)
  | @propagation s s' name namespaces before after m hentry =>
      have hcovered : m.CoveredBy { m with propagate := some true } :=
        ⟨rfl, m.sameGrant_refl, fun _ => rfl⟩
      exact hentry.embeds rfl (Folder.coveredBy_of_template hcovered)

/-- Any number of additions loses nothing. -/
theorem embeds_of_additions (h : Relation.ReflTransGen Addition s s') : s.Embeds s' := by
  induction h with
  | refl => exact .refl s
  | tail _ hstep ih => exact ih.trans hstep.embeds

end Spec

namespace FolderTree

/-- **Nobody loses access by what is added.**  If every folder name of a tree is used
once, child nodes, folders, templates and namespaces are added to it, and templates are
handed down that were not, in any number, and the tree that comes of it has a desired
set, then so has the one it came from, and each of its keys is still there, with the same
role and the same subjects. -/
theorem grants_kept_as_it_grows {t t' : FolderTree} (hdistinct : t.spec.DistinctNames)
    (hgrown : Relation.ReflTransGen Spec.Addition t.spec t'.spec) {b : Builder}
    {set' : DesiredSet} (hset' : t'.desired b = .ok set') :
    ∃ set, t.desired b = .ok set ∧ ∀ k g, set.get? k = some g →
      ∃ g', set'.get? k = some g' ∧ g.SameGrant g' :=
  exists_desired_of_covers ((Spec.embeds_of_additions hgrown).covers hdistinct) hset'

/-- What staff may do in a shop. -/
def staffEdit (propagate : Option Bool) : Template :=
  ⟨"sell", [.group "staff"], .clusterRole "edit", propagate⟩

/-- What the keeper of its cellar may do. -/
def keeperEdit : Template := ⟨"store", [.user "ada"], .clusterRole "edit", none⟩

/-- A shop with a back room that has no folder, and a cellar that stands alone. -/
def shop : FolderTree where
  metadata := { name := some "shop" }
  spec :=
    ⟨some ⟨"shop", [⟨"back", []⟩]⟩,
      [⟨"shop", [staffEdit none], ["shop-ns"]⟩, ⟨"cellar", [keeperEdit], ["cellar-ns"]⟩]⟩

/-- The shop after a while: staff may sell everywhere, the back room has a folder, and
the cellar is below it, has one more template and one more namespace. -/
def grownShop : FolderTree where
  metadata := { name := some "shop" }
  spec :=
    ⟨some ⟨"shop", [⟨"back", [⟨"cellar", []⟩]⟩]⟩,
      [⟨"shop", [staffEdit (some true)], ["shop-ns"]⟩,
       ⟨"back", [⟨"view", [.user "eve"], .clusterRole "view", some true⟩], []⟩,
       ⟨"cellar", [keeperEdit, ⟨"count", [.user "bob"], .clusterRole "view", none⟩],
         ["cellar-ns", "yard-ns"]⟩]⟩

theorem grants_kept_as_it_grows_shop :
    ∃ set set', shop.desired ⟨"shop", none⟩ = .ok set ∧
      grownShop.desired ⟨"shop", none⟩ = .ok set' ∧
      set.keys = [⟨"cellar-ns", "foldertree-shop-store"⟩, ⟨"shop-ns", "foldertree-shop-sell"⟩] ∧
      set'.keys.length = 9 ∧
      ∀ k g, set.get? k = some g → ∃ g', set'.get? k = some g' ∧ g.SameGrant g' := by
  have hgrown : Relation.ReflTransGen Spec.Addition shop.spec grownShop.spec :=
    .head (@Spec.Addition.newChild _ _ _ "back" [] [] _ (@Node.Replaces.under _ _ "shop" [] [] _ _
      .here)) <|
    .head (@Spec.Addition.newFolder _ [_] [_] _ (by decide)) <|
    .head (@Spec.Addition.propagation _ _ "shop" _ [] [] (staffEdit none) (.entry _ [] _)) <|
    .head (@Spec.Addition.newTemplate _ _ "cellar" _ [_] [] _ (.entry _ [_, _] [])) <|
    .single (@Spec.Addition.newNamespace _ _ "cellar" _ [_] [] _ (.entry _ [_, _] []))
  obtain ⟨set, hset, hkept⟩ := grants_kept_as_it_grows (by decide) hgrown
    (b := ⟨"shop", none⟩) rfl
  obtain rfl := Except.ok.inj hset
  exact ⟨_, _, rfl, rfl, rfl, rfl, hkept⟩

end FolderTree

end FolderGrants
