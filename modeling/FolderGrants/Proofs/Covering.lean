import FolderGrants.Proofs.Conflicts
import Mathlib.Data.List.Nodup

/-!
# When one specification covers another

The inheritance relation reads a hierarchy by names alone: along a *route*, the
names of the nodes from the root downwards, folders hand their templates on.  A
specification therefore grants at least what another one grants if it has all of its
routes and if its folders make up for the folders of the other one, name by name.
Where a folder is named does not matter: one that stood alone and is now in the tree
still emits its own templates.

* `Spec.emits_iff` — the inheritance relation, said with routes;
* `Spec.Embeds` — routes and folders of one specification are found in another;
* `Spec.Embeds.covers` — what is emitted is then emitted by the other one too;
* `FolderTree.exists_desired_of_covers` — a tree that is covered by one with a desired
  set has one itself, and keeps every grant in the other.
-/

namespace FolderGrants

/-- Going down from `top` through nodes of the names `above` leads to a node of that
name. -/
def Node.Route (top : Node) (above : List String) (name : String) : Prop :=
  ∃ nodes n, top.Path nodes n ∧ nodes.map Node.name = above ∧ n.name = name

/-- A route ends at the top or goes on below it. -/
theorem Node.route_iff {top : Node} {above : List String} {name : String} :
    top.Route above name ↔
      above = [] ∧ name = top.name ∨
      ∃ child ∈ top.subfolders, ∃ rest, above = top.name :: rest ∧ child.Route rest name := by
  constructor
  · intro h
    obtain ⟨nodes, n, hpath, rfl, rfl⟩ := h
    rcases path_iff.1 hpath with ⟨rfl, rfl⟩ | ⟨child, hchild, rest, rfl, tail⟩
    · exact .inl ⟨rfl, rfl⟩
    · exact .inr ⟨child, hchild, rest.map Node.name, rfl, rest, n, tail, rfl, rfl⟩
  · intro h
    rcases h with ⟨rfl, rfl⟩ | ⟨child, hchild, rest, rfl, nodes, n, tail, rfl, rfl⟩
    · exact ⟨[], top, .here top, rfl, rfl⟩
    · exact ⟨top :: nodes, n, .down hchild tail, rfl, rfl⟩

namespace Spec

variable {s : Spec} {f : Folder} {m : Template} {ns : String}

/-- A route of the hierarchy. -/
def Route (s : Spec) (above : List String) (name : String) : Prop :=
  ∃ root, s.root = some root ∧ root.Route above name

/-- The inheritance relation reads nodes by their names. -/
theorem emits_iff :
    s.Emits f m ns ↔
      ns ∈ f.namespaces ∧
        ((∃ above name, s.Route above name ∧ s.folder? name = some f ∧
          (m ∈ f.templates ∨ ∃ v ∈ above, ∃ g, s.folder? v = some g ∧ m ∈ g.templates ∧
            m.propagate = some true)) ∨
        f ∈ s.folders ∧ (∀ above, ¬s.Route above f.name) ∧ m ∈ f.templates) := by
  constructor
  · intro h
    cases h with
    | @placed root n nodes f m ns hroot hpath hfolder htemplate hns =>
        refine ⟨hns, .inl ⟨nodes.map Node.name, n.name, ⟨root, hroot, nodes, n, hpath, rfl, rfl⟩,
          hfolder, ?_⟩⟩
        rcases htemplate with hown | ⟨v, hv, g, hg, hinherited⟩
        · exact .inl hown
        · exact .inr ⟨v.name, List.mem_map_of_mem hv, g, hg, hinherited⟩
    | standalone hfolder hunnamed htemplate hns =>
        refine ⟨hns, .inr ⟨hfolder, fun above hroute => ?_, htemplate⟩⟩
        obtain ⟨root, hroot, nodes, n, hpath, -, hname⟩ := hroute
        exact hunnamed root nodes n hroot hpath hname
  · intro h
    rcases h with ⟨hns, ⟨above, name, hroute, hfolder, htemplate⟩ | ⟨hfolder, hunnamed, hown⟩⟩
    · obtain ⟨root, hroot, nodes, n, hpath, rfl, rfl⟩ := hroute
      refine .placed hroot hpath hfolder ?_ hns
      rcases htemplate with hown | ⟨v, hv, g, hg, hinherited⟩
      · exact .inl hown
      · obtain ⟨node, hnode, rfl⟩ := List.mem_map.1 hv
        exact .inr ⟨node, hnode, g, hg, hinherited⟩
    · refine .standalone hfolder (fun root nodes n hroot hpath hname => ?_) hown hns
      exact hunnamed _ ⟨root, hroot, nodes, n, hpath, rfl, hname⟩

end Spec

/-- A template makes up for another one: it has the name and gives the grant, and it
is handed down if the other one is. -/
structure Template.CoveredBy (m m' : Template) : Prop where
  name : m.name = m'.name
  grant : m.sameGrant m' = true
  propagate : m.propagate = some true → m'.propagate = some true

theorem Template.CoveredBy.refl (m : Template) : m.CoveredBy m :=
  ⟨rfl, m.sameGrant_refl, id⟩

theorem Template.CoveredBy.trans {m m' m'' : Template} (h : m.CoveredBy m')
    (h' : m'.CoveredBy m'') : m.CoveredBy m'' :=
  ⟨h.name.trans h'.name, sameGrant_trans h.grant h'.grant, fun hm => h'.propagate (h.propagate hm)⟩

/-- A folder makes up for another one: it has its namespaces and makes up for its
templates. -/
structure Folder.CoveredBy (f f' : Folder) : Prop where
  templates : ∀ m ∈ f.templates, ∃ m' ∈ f'.templates, m.CoveredBy m'
  namespaces : f.namespaces ⊆ f'.namespaces

theorem Folder.CoveredBy.refl (f : Folder) : f.CoveredBy f :=
  ⟨fun m hm => ⟨m, hm, .refl m⟩, List.Subset.refl _⟩

theorem Folder.CoveredBy.trans {f f' f'' : Folder} (h : f.CoveredBy f')
    (h' : f'.CoveredBy f'') : f.CoveredBy f'' := by
  refine ⟨fun m hm => ?_, List.Subset.trans h.namespaces h'.namespaces⟩
  obtain ⟨m', hm', hcovered⟩ := h.templates m hm
  obtain ⟨m'', hm'', hcovered'⟩ := h'.templates m' hm'
  exact ⟨m'', hm'', hcovered.trans hcovered'⟩

/-- A folder that has all templates and all namespaces of another one makes up for it. -/
theorem Folder.coveredBy_of_subset {name : String} {templates templates' : List Template}
    {namespaces namespaces' : List String} (htemplates : templates ⊆ templates')
    (hnamespaces : namespaces ⊆ namespaces') :
    CoveredBy ⟨name, templates, namespaces⟩ ⟨name, templates', namespaces'⟩ :=
  ⟨fun m hm => ⟨m, htemplates hm, .refl m⟩, hnamespaces⟩

/-- A folder makes up for another one if one of its templates does and the rest is the
same. -/
theorem Folder.coveredBy_of_template {name : String} {before after : List Template}
    {m m' : Template} {namespaces : List String} (h : m.CoveredBy m') :
    CoveredBy ⟨name, before ++ m :: after, namespaces⟩
      ⟨name, before ++ m' :: after, namespaces⟩ := by
  refine ⟨fun other hother => ?_, List.Subset.refl _⟩
  rcases List.mem_append.1 hother with hother | hother
  · exact ⟨other, List.mem_append_left _ hother, .refl other⟩
  · rcases List.mem_cons.1 hother with rfl | hother
    · exact ⟨m', by simp, h⟩
    · exact ⟨other, by simp [hother], .refl other⟩

namespace Spec

variable {s s' s'' : Spec}

/-- Every folder name is used once. -/
def DistinctNames (s : Spec) : Prop := (s.folders.map Folder.name).Nodup

instance (s : Spec) : Decidable s.DistinctNames :=
  inferInstanceAs (Decidable (s.folders.map Folder.name).Nodup)

/-- If names are used once, a folder is found by its name. -/
theorem DistinctNames.folder?_eq (h : s.DistinctNames) {f : Folder} (hf : f ∈ s.folders) :
    s.folder? f.name = some f := by
  have hmem : f ∈ s.folders.filter fun g => g.name == f.name := by simpa using hf
  have hfound : s.folder? f.name = some _ := List.getLast?_eq_some_getLast (List.ne_nil_of_mem hmem)
  obtain ⟨hlisted, hname⟩ := folder?_eq_some hfound
  rw [hfound, List.inj_on_of_nodup_map h hlisted hf hname]

/-- What `s` emits is emitted by `s'` under the same names, with the same grant. -/
def Covers (s' s : Spec) : Prop :=
  ∀ f m ns, s.Emits f m ns →
    ∃ f' m', s'.Emits f' m' ns ∧ m.name = m'.name ∧ m.sameGrant m' = true

/-- The routes of `s` are routes of `s'`, and the folders of `s'` make up for those
of `s`. -/
structure Embeds (s s' : Spec) : Prop where
  routes : ∀ above name, s.Route above name → s'.Route above name
  folders : ∀ name f, s.folder? name = some f → ∃ f', s'.folder? name = some f' ∧ f.CoveredBy f'

theorem Embeds.refl (s : Spec) : s.Embeds s :=
  ⟨fun _ _ h => h, fun _ f h => ⟨f, h, .refl f⟩⟩

theorem Embeds.trans (h : s.Embeds s') (h' : s'.Embeds s'') : s.Embeds s'' := by
  refine ⟨fun above name hroute => h'.routes _ _ (h.routes _ _ hroute), fun name f hf => ?_⟩
  obtain ⟨f', hf', hcovered⟩ := h.folders name f hf
  obtain ⟨f'', hf'', hcovered'⟩ := h'.folders name f' hf'
  exact ⟨f'', hf'', hcovered.trans hcovered'⟩

/-- **What is embedded is covered.**  A folder that stood alone may be named now: it
still emits its own templates. -/
theorem Embeds.covers (h : s.Embeds s') (hdistinct : s.DistinctNames) : s'.Covers s := by
  intro f m ns hemits
  obtain ⟨hns, ⟨above, name, hroute, hfolder, htemplate⟩ | ⟨hfolder, -, hown⟩⟩ :=
    emits_iff.1 hemits
  · obtain ⟨f', hf', hcovered⟩ := h.folders name f hfolder
    have hns' := hcovered.namespaces hns
    rcases htemplate with hown | ⟨v, hv, g, hg, hm, hpropagate⟩
    · obtain ⟨m', hm', hgrant⟩ := hcovered.templates m hown
      exact ⟨f', m', emits_iff.2 ⟨hns', .inl ⟨above, name, h.routes _ _ hroute, hf', .inl hm'⟩⟩,
        hgrant.name, hgrant.grant⟩
    · obtain ⟨g', hg', hcovered'⟩ := h.folders v g hg
      obtain ⟨m', hm', hgrant⟩ := hcovered'.templates m hm
      have hinherited : ∃ v ∈ above, ∃ g, s'.folder? v = some g ∧ m' ∈ g.templates ∧
          m'.propagate = some true := ⟨v, hv, g', hg', hm', hgrant.propagate hpropagate⟩
      exact ⟨f', m',
        emits_iff.2 ⟨hns', .inl ⟨above, name, h.routes _ _ hroute, hf', .inr hinherited⟩⟩,
        hgrant.name, hgrant.grant⟩
  · obtain ⟨f', hf', hcovered⟩ := h.folders f.name f (hdistinct.folder?_eq hfolder)
    obtain ⟨hlisted, hname⟩ := folder?_eq_some hf'
    obtain ⟨m', hm', hgrant⟩ := hcovered.templates m hown
    have hns' := hcovered.namespaces hns
    refine ⟨f', m', emits_iff.2 ⟨hns', ?_⟩, hgrant.name, hgrant.grant⟩
    by_cases hnamed : ∃ above, s'.Route above f'.name
    · obtain ⟨above, hroute⟩ := hnamed
      exact .inl ⟨above, f'.name, hroute, hname ▸ hf', .inl hm'⟩
    · exact .inr ⟨hlisted, fun above hroute => hnamed ⟨above, hroute⟩, hm'⟩

end Spec

/-- Two grants give one role to the same subjects. -/
structure Grant.SameGrant (g g' : Grant) : Prop where
  roleRef : g.binding.roleRef = g'.binding.roleRef
  subjects : ∀ x, x ∈ g.binding.subjectList ↔ x ∈ g'.binding.subjectList

namespace FolderTree

variable {t t' : FolderTree} {b : Builder} {set set' : DesiredSet}

/-- What is emitted under cover is emitted again, at the same key and with the same
grant. -/
theorem exists_emission_of_covers (hcovers : t'.spec.Covers t.spec) {e : Emission}
    (he : e ∈ t.spec.emissions) :
    ∃ e' ∈ t'.spec.emissions, e.key b = e'.key b ∧ e.template.sameGrant e'.template = true := by
  obtain ⟨f, hemits, -⟩ := Spec.mem_emissions_iff.1 he
  obtain ⟨f', m', hemits', hname, hgrant⟩ := hcovers f e.template e.ns hemits
  refine ⟨⟨f'.name, m', e.ns⟩, Spec.mem_emissions_iff.2 ⟨f', hemits', rfl⟩, ?_, hgrant⟩
  exact Emission.key_eq_iff.2 ⟨rfl, hname⟩

/-- Under the cover of a tree that has a desired set nothing contradicts itself. -/
theorem not_contradicts_of_covers (hcovers : t'.spec.Covers t.spec)
    (hset' : t'.desired b = .ok set') {e₁ e₂ : Emission} (h₁ : e₁ ∈ t.spec.emissions)
    (h₂ : e₂ ∈ t.spec.emissions) : ¬e₁.Contradicts e₂ := by
  intro hcontra
  obtain ⟨hkey, hother⟩ := (Emission.contradicts_iff b).1 hcontra
  obtain ⟨e₁', h₁', hkey₁, hgrant₁⟩ := exists_emission_of_covers (b := b) hcovers h₁
  obtain ⟨e₂', h₂', hkey₂, hgrant₂⟩ := exists_emission_of_covers (b := b) hcovers h₂
  have hsame' := (desired_eq_ok_iff.1 hset').same e₁' h₁' e₂' h₂' (hkey₁ ▸ hkey₂ ▸ hkey)
  have hsame := Template.sameGrant_trans (Template.sameGrant_trans hgrant₁ hsame')
    (Template.sameGrant_symm hgrant₂)
  rw [hsame] at hother
  cases hother

/-- **A tree that is covered keeps its grants.**  It has a desired set if the other one
has, and each of its keys is a key there, with the same grant. -/
theorem exists_desired_of_covers (hcovers : t'.spec.Covers t.spec)
    (hset' : t'.desired b = .ok set') :
    ∃ set, t.desired b = .ok set ∧ ∀ k g, set.get? k = some g →
      ∃ g', set'.get? k = some g' ∧ g.SameGrant g' := by
  cases hset : t.desired b with
  | error c =>
      obtain ⟨e₁, h₁, e₂, h₂, hcontra⟩ := desired_fails_iff.1 ⟨c, hset⟩
      exact absurd hcontra (not_contradicts_of_covers hcovers hset' h₁ h₂)
  | ok set =>
      refine ⟨set, rfl, fun k g hg => ?_⟩
      have hcollapses' := desired_eq_ok_iff.1 hset'
      obtain ⟨e, he, rfl, rfl⟩ := (desired_eq_ok_iff.1 hset).exists_emission hg
      obtain ⟨e', he', hkey, hgrant⟩ := exists_emission_of_covers (b := b) hcovers he
      obtain ⟨g', hg', hgrant'⟩ := hcollapses'.exists_grant he'
      obtain ⟨first, -, -, rfl⟩ := hcollapses'.exists_emission hg'
      have hsame := Template.sameGrant_trans hgrant (Template.sameGrant_symm hgrant')
      obtain ⟨hrole, hsubjects⟩ := (Template.sameGrant_iff _ _).1 hsame
      exact ⟨first.grant b, hkey ▸ hg', hrole, hsubjects⟩

/-- If both trees have desired sets, the key of a covered grant is a key of the other
set, and the grants are the same. -/
theorem grant_of_covers (hcovers : t'.spec.Covers t.spec) (hset : t.desired b = .ok set)
    (hset' : t'.desired b = .ok set') {k : BindingKey} {g : Grant} (hg : set.get? k = some g) :
    ∃ g', set'.get? k = some g' ∧ g.SameGrant g' := by
  obtain ⟨same, hsame, hgrants⟩ := exists_desired_of_covers hcovers hset'
  obtain rfl := Except.ok.inj (hset.symm.trans hsame)
  exact hgrants k g hg

/-- Nor does a key get lost. -/
theorem mem_keys_of_covers (hcovers : t'.spec.Covers t.spec) (hset : t.desired b = .ok set)
    (hset' : t'.desired b = .ok set') {k : BindingKey} (hk : k ∈ set.keys) : k ∈ set'.keys := by
  obtain ⟨g, hg⟩ := OrderedMap.mem_keys_iff.1 hk
  obtain ⟨g', hg', -⟩ := grant_of_covers hcovers hset hset' hg
  exact OrderedMap.mem_keys_iff.2 ⟨g', hg'⟩

end FolderTree

end FolderGrants
