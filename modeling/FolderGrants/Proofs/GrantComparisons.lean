import FolderGrants.Proofs.EmptyChanges
import FolderGrants.Proofs.NodeEdits

/-!
# Two ways to compare grants

Grants are compared twice.  Emissions of one key collapse if they name the same role and
the same set of subjects, where an absent namespace or group is not an empty one.  What
they were built into needs no refresh if the role is the same, and if the lists name the
same subjects and are equally long, where an absent namespace or group is an empty one.
So the second comparison counts, and the first one spells.

It matters where emissions of one key collapse that list a subject more or less often:
the first of them stands for all, so another one may stand for them when nodes change
places.  The emissions are the same ones then, in another order, so the keys, the roles
and the sets of subjects stay; only how often they are listed may differ.

* `Template.unchanged_iff` — what the second comparison looks at;
* `Template.unchanged_iff_length_eq`, `Template.sameGrant_iff_unchanged` — where the two
  agree;
* `Spec.ReordersSiblings` — the nodes below one node change places;
* `FolderTree.exists_changes_of_reorders` — then at most the subjects of a binding are
  counted anew;
* `grant_comparisons_agree` — all of this together.
-/

namespace FolderGrants

namespace Subject

variable {a b : List Subject}

/-- No subject is written with an absent namespace or group in one list and with an empty
one in the other. -/
def SpelledAlike (a b : List Subject) : Prop :=
  ∀ s ∈ a, ∀ s' ∈ b, s.identity = s'.identity → s = s'

instance (a b : List Subject) : Decidable (SpelledAlike a b) :=
  inferInstanceAs (Decidable (∀ s ∈ a, ∀ s' ∈ b, s.identity = s'.identity → s = s'))

theorem SpelledAlike.symm (h : SpelledAlike a b) : SpelledAlike b a :=
  fun s hs s' hs' heq => (h s' hs' s hs heq.symm).symm

/-- Lists with the same elements name the same subjects. -/
theorem sameSet_of_mem_iff (h : ∀ s, s ∈ a ↔ s ∈ b) : SameSet a b := by
  intro i
  simp only [List.mem_map, h]

/-- What is named alike and spelled alike is the same. -/
theorem SpelledAlike.mem_of_mem (h : SpelledAlike a b) (hsame : SameSet a b) {s : Subject}
    (hs : s ∈ a) : s ∈ b := by
  obtain ⟨s', hs', heq⟩ := List.mem_map.1 ((hsame s.identity).1 (List.mem_map_of_mem hs))
  rw [h s hs s' hs' heq.symm]
  exact hs'

end Subject

namespace Template

variable {m m' : Template} {b : Builder} {ns : String}

/-- Between the bindings that two templates give in a namespace no change is seen. -/
structure Unchanged (b : Builder) (ns : String) (m m' : Template) : Prop where
  roleRef : (b.build m ns).roleRef = (b.build m' ns).roleRef
  needsRefresh : (b.build m ns).needsRefresh (b.build m' ns) = false

instance (b : Builder) (ns : String) (m m' : Template) : Decidable (m.Unchanged b ns m') :=
  decidable_of_iff
    ((b.build m ns).roleRef = (b.build m' ns).roleRef ∧
      (b.build m ns).needsRefresh (b.build m' ns) = false)
    ⟨fun h => ⟨h.1, h.2⟩, fun h => ⟨h.roleRef, h.needsRefresh⟩⟩

/-- No change is seen between templates of one name that give the same role to as many
subjects and the same ones. -/
theorem unchanged_iff (hname : m.name = m'.name) :
    m.Unchanged b ns m' ↔
      m.roleRef = m'.roleRef ∧ m.subjects.length = m'.subjects.length ∧
        Subject.SameSet m.subjects m'.subjects := by
  have hlabels : (b.build m ns).labels = (b.build m' ns).labels :=
    congrArg (Binding.trackingLabels b.tree) hname
  constructor
  · intro h
    have hserves := Binding.needsRefresh_eq_false_iff.1 h.needsRefresh
    exact ⟨hserves.roleRef, hserves.length, hserves.subjects⟩
  · intro h
    obtain ⟨hrole, hlength, hsubjects⟩ := h
    have hserves : (b.build m ns).Serves (b.build m' ns) :=
      ⟨hrole, hlength, hsubjects, fun l v hl => hlabels ▸ hl⟩
    exact ⟨hrole, Binding.needsRefresh_eq_false_iff.2 hserves⟩

/-- **What collapses is unchanged exactly if it is counted alike.** -/
theorem unchanged_iff_length_eq (hname : m.name = m'.name) (h : m.sameGrant m' = true) :
    m.Unchanged b ns m' ↔ m.subjects.length = m'.subjects.length := by
  obtain ⟨hrole, hsubjects⟩ := (sameGrant_iff m m').1 h
  rw [unchanged_iff hname]
  constructor
  · exact fun hunchanged => hunchanged.2.1
  · exact fun hlength => ⟨hrole, hlength, Subject.sameSet_of_mem_iff hsubjects⟩

/-- **What is counted and spelled alike collapses exactly if it is unchanged.** -/
theorem sameGrant_iff_unchanged (hname : m.name = m'.name)
    (hlength : m.subjects.length = m'.subjects.length)
    (halike : Subject.SpelledAlike m.subjects m'.subjects) :
    m.sameGrant m' = true ↔ m.Unchanged b ns m' := by
  constructor
  · exact fun h => (unchanged_iff_length_eq hname h).2 hlength
  · intro h
    obtain ⟨hrole, -, hsame⟩ := (unchanged_iff hname).1 h
    refine (sameGrant_iff m m').2 ⟨hrole, fun s => ?_⟩
    exact ⟨fun hs => halike.mem_of_mem hsame hs, fun hs => halike.symm.mem_of_mem hsame.symm hs⟩

end Template

namespace Spec

variable {s s' : Spec}

/-- The nodes below one node, at any depth, come in another order; all else is the same. -/
inductive ReordersSiblings : Spec → Spec → Prop
  | node {root root' : Node} {folders : List Folder} {name : String}
      {children children' : List Node} (horder : children.Perm children')
      (hnode : Node.Replaces ⟨name, children⟩ ⟨name, children'⟩ root root') :
      ReordersSiblings ⟨some root, folders⟩ ⟨some root', folders⟩

/-- Two nodes below one node may change places. -/
theorem ReordersSiblings.swap {root root' : Node} {folders : List Folder} {name : String}
    {before between after : List Node} {n n' : Node}
    (h : Node.Replaces ⟨name, before ++ n :: between ++ n' :: after⟩
      ⟨name, before ++ n' :: between ++ n :: after⟩ root root') :
    ReordersSiblings ⟨some root, folders⟩ ⟨some root', folders⟩ := by
  have hfirst : (n :: (between ++ n' :: after)).Perm (n :: n' :: (between ++ after)) :=
    List.perm_middle.cons n
  have hlast : (n' :: n :: (between ++ after)).Perm (n' :: (between ++ n :: after)) :=
    List.perm_middle.symm.cons n'
  refine .node ?_ h
  rw [List.append_assoc, List.append_assoc]
  exact ((hfirst.trans (.swap n' n _)).trans hlast).append_left before

/-- **Reordered nodes emit the same, in another order.**  Folder names may repeat, since
what is found under a name does not depend on where nodes stand. -/
theorem ReordersSiblings.emissions_perm (h : s.ReordersSiblings s') :
    s.emissions.Perm s'.emissions := by
  cases h with
  | @node root root' folders name children children' horder hnode =>
      have hbelow : ∀ inherited,
          (emissionsBelow ⟨some root, folders⟩ inherited children).Perm
            (emissionsBelow ⟨some root, folders⟩ inherited children') := by
        intro inherited
        rw [emissionsBelow_eq_flatMap, emissionsBelow_eq_flatMap]
        exact horder.flatMap_right _
      have hnames : ∀ f ∈ folders,
          f.name ∈ Node.names ⟨name, children⟩ ↔ f.name ∈ Node.names ⟨name, children'⟩ := by
        intro f _
        simp only [Node.names, List.mem_cons, Node.mem_namesOf_iff, horder.mem_iff]
      exact emissions_rel piecewise_perm hnode (emissionsAt_rel_of_below piecewise_perm hbelow)
        hnames

/-- What is listed by both is emitted by both. -/
theorem exists_emits_of_subset (h : s.emissions ⊆ s'.emissions) {f : Folder} {m : Template}
    {ns : String} (hemits : s.Emits f m ns) : ∃ f', s'.Emits f' m ns := by
  have hmem : (⟨f.name, m, ns⟩ : Emission) ∈ s.emissions := mem_emissions_iff.2 ⟨f, hemits, rfl⟩
  obtain ⟨f', hemits', -⟩ := mem_emissions_iff.1 (h hmem)
  exact ⟨f', hemits'⟩

/-- A specification that emits all that another one emits covers it. -/
theorem covers_of_subset (h : s.emissions ⊆ s'.emissions) : s'.Covers s := by
  intro f m ns hemits
  obtain ⟨f', hemits'⟩ := exists_emits_of_subset h hemits
  exact ⟨f', m, hemits', rfl, m.sameGrant_refl⟩

end Spec

/-- Refreshes alone are listed in the order of their keys, one for each. -/
theorem DesiredSet.WellFormed.ascending_of_updates {desired : DesiredSet} {baseline : Baseline}
    {changes : List Change} (h : desired.WellFormed baseline changes)
    (hkind : ∀ c ∈ changes, c.kind = .update) :
    changes.Pairwise fun c c' => compare c.key c'.key = .lt := by
  obtain ⟨required, dropped, rfl, -, hordered, hdropped, -⟩ := h.order
  have hnone : dropped = [] := by
    refine List.eq_nil_iff_forall_not_mem.2 fun c hc => ?_
    have hupdate := hkind c (List.mem_append_right _ hc)
    cases hupdate.symm.trans (hdropped c hc).1
  rw [hnone, List.append_nil]
  refine hordered.imp_of_mem fun hc _ hprecedes => ?_
  -- At one key only a deletion precedes anything.
  rcases hprecedes with hless | ⟨-, hdelete, -⟩
  · exact hless
  · cases (hkind _ (List.mem_append_left _ hc)).symm.trans hdelete

namespace FolderTree

variable {old new : FolderTree} {before after : DesiredSet} {k : BindingKey} {g g' : Grant}

/-- Between trees of one name, a grant that stays is seen as changed exactly if its
subjects are counted anew. -/
theorem needsRefresh_iff_recounted (hname : old.name = new.name)
    (hbefore : old.unownedDesired = .ok before) (hafter : new.unownedDesired = .ok after)
    (hg : before.get? k = some g) (hg' : after.get? k = some g') (h : g.SameGrant g') :
    g.binding.needsRefresh g'.binding = true ↔
      g.binding.subjectList.length ≠ g'.binding.subjectList.length := by
  have hsubjects : Subject.SameSet g.binding.subjectList g'.binding.subjectList :=
    Subject.sameSet_of_mem_iff h.subjects
  rw [← not_iff_not, not_ne_iff, Bool.not_eq_true, Binding.needsRefresh_eq_false_iff]
  constructor
  · exact fun hserves => hserves.length
  · intro hlength
    exact ⟨h.roleRef, hlength, hsubjects, fun l v hl =>
      labels_eq_of_key hname hbefore hafter hg hg' ▸ hl⟩

/-- **Where grants stay, at most their subjects are counted anew.**  If two trees of one
name cover each other, the only changes between them are refreshes, one for each key
whose bindings list different numbers of subjects. -/
theorem mem_changesFrom_of_covers (hname : old.name = new.name)
    (hforth : new.spec.Covers old.spec) (hback : old.spec.Covers new.spec)
    (hbefore : old.unownedDesired = .ok before) (hafter : new.unownedDesired = .ok after)
    {c : Change} :
    c ∈ after.changesFrom before.baseline ↔
      ∃ k g g', before.get? k = some g ∧ after.get? k = some g' ∧
        g.binding.subjectList.length ≠ g'.binding.subjectList.length ∧
        c = .renewal k g'.template.name g.binding g'.binding := by
  have hbuilder : old.desired (.unowned new) = .ok before :=
    (unownedDesired_of_name hname).symm.trans hbefore
  rw [DesiredSet.mem_changesFrom_iff_due]
  -- A key of one version is a key of the other one, with the same role.
  constructor
  · intro h
    cases h with
    | @creation k g' hg' hrole =>
        obtain ⟨g, hg, hsame⟩ := grant_of_covers hback hafter hbuilder hg'
        exact absurd hsame.roleRef.symm (hrole _ (DesiredSet.get?_baseline_of_grant hg))
    | @renewal k g' held hg' hk _ hrefresh =>
        obtain ⟨g, hg, rfl⟩ := DesiredSet.get?_baseline_eq_some_iff.1 hk
        obtain ⟨first, hfirst, hsame⟩ := grant_of_covers hforth hbuilder hafter hg
        obtain rfl := Option.some.inj (hfirst.symm.trans hg')
        exact ⟨k, g, first, hg, hg',
          (needsRefresh_iff_recounted hname hbefore hafter hg hg' hsame).1 hrefresh, rfl⟩
    | @removal k held hk hrole =>
        obtain ⟨g, hg, rfl⟩ := DesiredSet.get?_baseline_eq_some_iff.1 hk
        obtain ⟨g', hg', hsame⟩ := grant_of_covers hforth hbuilder hafter hg
        exact absurd hsame.roleRef (hrole g' hg')
  · intro h
    obtain ⟨k, g, g', hg, hg', hcount, rfl⟩ := h
    obtain ⟨first, hfirst, hsame⟩ := grant_of_covers hforth hbuilder hafter hg
    obtain rfl := Option.some.inj (hfirst.symm.trans hg')
    exact .renewal hg' (DesiredSet.get?_baseline_of_grant hg) hsame.roleRef
      ((needsRefresh_iff_recounted hname hbefore hafter hg hg' hsame).2 hcount)

/-- **Where nodes change places, at most the subjects of a binding are counted anew.** -/
theorem exists_changes_of_reorders (hname : old.name = new.name)
    (h : old.spec.ReordersSiblings new.spec) (hbefore : old.unownedDesired = .ok before) :
    ∃ after, new.unownedDesired = .ok after ∧
      changesFrom (some old) new = .ok (after.changesFrom before.baseline) ∧
      ((after.changesFrom before.baseline).Pairwise fun c c' => compare c.key c'.key = .lt) ∧
      ∀ c, c ∈ after.changesFrom before.baseline ↔
        ∃ k g g', before.get? k = some g ∧ after.get? k = some g' ∧
          g.binding.subjectList.length ≠ g'.binding.subjectList.length ∧
          c = .renewal k g'.template.name g.binding g'.binding := by
  have hforth : new.spec.Covers old.spec := Spec.covers_of_subset h.emissions_perm.subset
  have hback : old.spec.Covers new.spec := Spec.covers_of_subset h.emissions_perm.symm.subset
  have hbuilder : old.desired (.unowned new) = .ok before :=
    (unownedDesired_of_name hname).symm.trans hbefore
  obtain ⟨after, hafter, -⟩ := exists_desired_of_covers hback hbuilder
  have hmem : ∀ c, c ∈ after.changesFrom before.baseline ↔ _ :=
    fun c => mem_changesFrom_of_covers hname hforth hback hbefore hafter
  have hwell := DesiredSet.changesFrom_wellFormed (desired_keyed hafter)
    (desired_keyed hbefore).baseline
  have hkind : ∀ c ∈ after.changesFrom before.baseline, c.kind = .update := by
    intro c hc
    obtain ⟨k, g, g', -, -, -, rfl⟩ := (hmem c).1 hc
    rfl
  exact ⟨after, hafter, changesFrom_some_eq_ok_iff.2 ⟨before, after, hbefore, hafter, rfl⟩,
    hwell.ascending_of_updates hkind, hmem⟩

/-- All that is emitted for one namespace under one name lists equally many subjects. -/
def CountsAlike (t : FolderTree) : Prop :=
  ∀ f m f' m' ns, t.spec.Emits f m ns → t.spec.Emits f' m' ns → m.name = m'.name →
    m.subjects.length = m'.subjects.length

/-- What stands at a key is emitted for its namespace. -/
theorem exists_emits_of_grant {t : FolderTree} {b : Builder} {set : DesiredSet}
    (h : t.desired b = .ok set) (hg : set.get? k = some g) :
    ∃ f, t.spec.Emits f g.template k.ns ∧ g.binding = b.build g.template k.ns := by
  obtain ⟨e, he, rfl, rfl⟩ := (desired_eq_ok_iff.1 h).exists_emission hg
  obtain ⟨f, hemits, -⟩ := Spec.mem_emissions_iff.1 he
  exact ⟨f, hemits, rfl⟩

/-- Where all that is emitted is counted alike, a key stands for one number of subjects. -/
theorem length_eq_of_countsAlike (hname : old.name = new.name)
    (h : old.spec.ReordersSiblings new.spec) (hcount : old.CountsAlike)
    (hbefore : old.unownedDesired = .ok before) (hafter : new.unownedDesired = .ok after)
    (hg : before.get? k = some g) (hg' : after.get? k = some g') :
    g.binding.subjectList.length = g'.binding.subjectList.length := by
  obtain ⟨f, hemits, hbinding⟩ := exists_emits_of_grant hbefore hg
  obtain ⟨f', hemits', hbinding'⟩ := exists_emits_of_grant hafter hg'
  obtain ⟨f'', hemits''⟩ := Spec.exists_emits_of_subset h.emissions_perm.symm.subset hemits'
  have hnames := template_name_eq hname hbefore hafter hg hg'
  rw [hbinding, hbinding']
  exact hcount f g.template f'' g'.template k.ns hemits hemits'' hnames

end FolderTree

/-- **The two comparisons agree where subjects are counted and spelled alike.**  Of two
templates of one name, for whatever tree and namespace: if they list equally many
subjects, and no subject is written with an absent namespace or group in one and with an
empty one in the other, they collapse exactly if no change is seen between what is built
from them; and if they collapse, no change is seen exactly if they list equally many
subjects.

So if a tree has a desired set and the nodes below one of its nodes change places, the
new tree has one, and nothing is created or removed.  There is one refresh for each key
whose bindings list different numbers of subjects, in the order of the keys, and nothing
else; if all that the tree emits for one namespace under one name lists equally many,
nothing changes at all. -/
theorem grant_comparisons_agree :
    (∀ (m m' : Template) (b : Builder) (ns : String), m.name = m'.name →
      (m.subjects.length = m'.subjects.length → Subject.SpelledAlike m.subjects m'.subjects →
        (m.sameGrant m' = true ↔ m.Unchanged b ns m')) ∧
      (m.sameGrant m' = true →
        (m.Unchanged b ns m' ↔ m.subjects.length = m'.subjects.length))) ∧
    ∀ (old new : FolderTree) (before : DesiredSet), old.name = new.name →
      old.spec.ReordersSiblings new.spec → old.unownedDesired = .ok before →
      ∃ after changes, new.unownedDesired = .ok after ∧
        FolderTree.changesFrom (some old) new = .ok changes ∧
        (changes.Pairwise fun c c' => compare c.key c'.key = .lt) ∧
        (∀ c, c ∈ changes ↔
          ∃ k g g', before.get? k = some g ∧ after.get? k = some g' ∧
            g.binding.subjectList.length ≠ g'.binding.subjectList.length ∧
            c = .renewal k g'.template.name g.binding g'.binding) ∧
        (old.CountsAlike → changes = []) := by
  refine ⟨fun m m' b ns hname => ⟨fun hlength halike => ?_, fun h => ?_⟩,
    fun old new before hname hreorders hbefore => ?_⟩
  · exact Template.sameGrant_iff_unchanged hname hlength halike
  · exact Template.unchanged_iff_length_eq hname h
  · obtain ⟨after, hafter, hchanges, hascending, hmem⟩ :=
      FolderTree.exists_changes_of_reorders hname hreorders hbefore
    refine ⟨after, _, hafter, hchanges, hascending, hmem, fun hcount => ?_⟩
    refine List.eq_nil_iff_forall_not_mem.2 fun c hc => ?_
    obtain ⟨k, g, g', hg, hg', hrecounted, -⟩ := (hmem c).1 hc
    exact hrecounted
      (FolderTree.length_eq_of_countsAlike hname hreorders hcount hbefore hafter hg hg')

namespace FolderTree

/-- Whether all is counted alike can be read off the list of emissions. -/
theorem countsAlike_iff {t : FolderTree} :
    t.CountsAlike ↔
      ∀ e ∈ t.spec.emissions, ∀ e' ∈ t.spec.emissions, e.ns = e'.ns →
        e.template.name = e'.template.name →
          e.template.subjects.length = e'.template.subjects.length := by
  constructor
  · intro h e he e' he' hns hname
    obtain ⟨f, hemits, -⟩ := Spec.mem_emissions_iff.1 he
    obtain ⟨f', hemits', -⟩ := Spec.mem_emissions_iff.1 he'
    exact h f e.template f' e'.template e.ns hemits (hns ▸ hemits') hname
  · intro h f m f' m' ns hemits hemits' hname
    exact h ⟨f.name, m, ns⟩ (Spec.mem_emissions_iff.2 ⟨f, hemits, rfl⟩) ⟨f'.name, m', ns⟩
      (Spec.mem_emissions_iff.2 ⟨f', hemits', rfl⟩) rfl hname

instance (t : FolderTree) : Decidable t.CountsAlike := decidable_of_iff _ countsAlike_iff.symm

/-- A rota for the given subjects. -/
def rotaFor (subjects : List Subject) : Template := ⟨"rota", subjects, .clusterRole "edit", none⟩

/-- A ward with two shifts that share a namespace, each with a rota of its own. -/
def wardOf (shifts : List Node) (day night : List Subject) : FolderTree where
  metadata := { name := some "ward" }
  spec :=
    { root := some ⟨"ward", shifts⟩
      folders := [⟨"day", [rotaFor day], ["ward-ns"]⟩, ⟨"night", [rotaFor night], ["ward-ns"]⟩] }

/-- A ward whose day comes first. -/
def dayWard (day night : List Subject) : FolderTree :=
  wardOf [⟨"day", []⟩, ⟨"night", []⟩] day night

/-- The same ward, whose night comes first. -/
def nightWard (day night : List Subject) : FolderTree :=
  wardOf [⟨"night", []⟩, ⟨"day", []⟩] day night

theorem dayWard_reorders (day night : List Subject) :
    (dayWard day night).spec.ReordersSiblings (nightWard day night).spec :=
  @Spec.ReordersSiblings.swap _ _ _ "ward" [] [] [] ⟨"day", []⟩ ⟨"night", []⟩ .here

/-- A list that repeats a subject collapses with one that does not, and a change is seen;
a subject with an absent namespace does not collapse with one that has an empty one, and
no change is seen; and where two nodes of a tree with a desired set change places, a
binding is refreshed. -/
theorem comparisons_disagree_ward :
    ((rotaFor [.user "ada", .user "ada"]).sameGrant (rotaFor [.user "ada"]) = true ∧
      ¬(rotaFor [.user "ada", .user "ada"]).Unchanged ⟨"ward", none⟩ "ward-ns"
        (rotaFor [.user "ada"])) ∧
    ((rotaFor [.user "ada"]).Unchanged ⟨"ward", none⟩ "ward-ns"
        (rotaFor [{ Subject.user "ada" with ns := some "" }]) ∧
      (rotaFor [.user "ada"]).sameGrant
        (rotaFor [{ Subject.user "ada" with ns := some "" }]) = false) ∧
    (dayWard [.user "ada", .user "ada"] [.user "ada"]).spec.ReordersSiblings
      (nightWard [.user "ada", .user "ada"] [.user "ada"]).spec ∧
    (∃ set, (dayWard [.user "ada", .user "ada"] [.user "ada"]).unownedDesired = .ok set) ∧
    ∃ c, changesFrom (some (dayWard [.user "ada", .user "ada"] [.user "ada"]))
      (nightWard [.user "ada", .user "ada"] [.user "ada"]) = .ok [c] ∧ c.kind = .update :=
  ⟨by decide, by decide, dayWard_reorders _ _, ⟨_, rfl⟩, _, rfl, rfl⟩

theorem grant_comparisons_agree_ward :
    (rotaFor [.user "ada", .group "ops"]).sameGrant (rotaFor [.group "ops", .user "ada"]) =
        true ∧
      (rotaFor [.user "ada", .group "ops"]).Unchanged ⟨"ward", none⟩ "ward-ns"
        (rotaFor [.group "ops", .user "ada"]) ∧
      (dayWard [.user "ada", .group "ops"] [.group "ops", .user "ada"]).CountsAlike ∧
      changesFrom (some (dayWard [.user "ada", .group "ops"] [.group "ops", .user "ada"]))
        (nightWard [.user "ada", .group "ops"] [.group "ops", .user "ada"]) = .ok [] := by
  obtain ⟨htemplates, htrees⟩ := grant_comparisons_agree
  have hsame : (rotaFor [.user "ada", .group "ops"]).sameGrant
      (rotaFor [.group "ops", .user "ada"]) = true := by decide
  obtain ⟨hagree, -⟩ := htemplates (rotaFor [.user "ada", .group "ops"])
    (rotaFor [.group "ops", .user "ada"]) ⟨"ward", none⟩ "ward-ns" rfl
  have hcount : (dayWard [.user "ada", .group "ops"] [.group "ops", .user "ada"]).CountsAlike := by
    decide
  obtain ⟨after, changes, -, hchanges, -, -, hnil⟩ :=
    htrees (dayWard [.user "ada", .group "ops"] [.group "ops", .user "ada"])
      (nightWard [.user "ada", .group "ops"] [.group "ops", .user "ada"]) _ rfl
      (dayWard_reorders _ _) rfl
  obtain rfl := hnil hcount
  exact ⟨hsame, (hagree rfl (by decide)).1 hsame, hcount, hchanges⟩

end FolderTree

end FolderGrants
