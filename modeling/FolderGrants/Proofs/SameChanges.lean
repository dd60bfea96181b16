import FolderGrants.Proofs.Conflicts
import FolderGrants.Proofs.Writes
import Mathlib.Data.List.Forall2

/-!
# A review and a pass see the same changes

A review compares two versions of a tree, a pass compares a tree with bindings that
it has listed.  The two take their baselines from different places: the review from
the desired set of the old version, by key and with the templates it has at hand;
the pass from bindings alone, whose keys and templates it reads off their names and
labels.  And the bindings of a pass have an owner.  None of this makes a difference,
as keys, roles, subjects and labels are all that a comparison reads, and a binding
made for a tree says in them where it comes from.

* `DesiredSet.baseline_eq_ofBindings` — the bindings of a desired set, listed, are
  the baseline that the set itself is;
* `FolderTree.ownedDesired_eq` — what a pass requires is what a review looks at,
  with owners;
* `DesiredSet.changesFrom_withOwners` — owners do not change the changes;
* `FolderTree.changes_agree` — the two see the same.
-/

namespace FolderGrants

namespace Binding

/-- The binding with other owners. -/
def withOwners (b : Binding) (owners : Option (List Owner)) : Binding :=
  { b with metadata := { b.metadata with owners := owners } }

/-- Two bindings differ in their owners at most. -/
def SameButOwners (a b : Binding) : Prop := a.withOwners b.metadata.owners = b

/-- A binding with other owners is the same but for them. -/
theorem withOwners_sameButOwners (b : Binding) (os : Option (List Owner)) :
    (b.withOwners os).SameButOwners b := rfl

end Binding

namespace Grant

/-- The grant with other owners of its binding. -/
def withOwners (g : Grant) (owners : Option (List Owner)) : Grant :=
  { g with binding := g.binding.withOwners owners }

/-- Two grants have one origin, and bindings that differ in their owners at most. -/
structure AgreesWith (g g' : Grant) : Prop where
  ns : g.ns = g'.ns
  folder : g.folder = g'.folder
  template : g.template = g'.template
  binding : g.binding.SameButOwners g'.binding

/-- A grant whose binding has other owners agrees with it. -/
theorem withOwners_agreesWith (g : Grant) (os : Option (List Owner)) :
    (g.withOwners os).AgreesWith g :=
  ⟨rfl, rfl, rfl, g.binding.withOwners_sameButOwners os⟩

end Grant

/-- What is held, with other owners. -/
def Held.withOwners (h : Held) (owners : Option (List Owner)) : Held :=
  { h with binding := h.binding.withOwners owners }

namespace Change

/-- The change with other owners of its bindings: of the existing one and of the
desired one. -/
def withOwners (c : Change) (held wanted : Option (List Owner)) : Change :=
  { c with
    existing := c.existing.map (·.withOwners held)
    desired := c.desired.map (·.withOwners wanted) }

/-- Two changes do the same under the same names, to bindings that differ in their
owners at most. -/
structure AgreesWith (c c' : Change) : Prop where
  kind : c.kind = c'.kind
  ns : c.ns = c'.ns
  template : c.template = c'.template
  bindingName : c.bindingName = c'.bindingName
  existing : Option.Rel Binding.SameButOwners c.existing c'.existing
  desired : Option.Rel Binding.SameButOwners c.desired c'.desired

/-- What stands, if anything, is the same with other owners but for them. -/
theorem rel_withOwners (o : Option Binding) (os : Option (List Owner)) :
    Option.Rel Binding.SameButOwners (o.map (·.withOwners os)) o := by
  cases o with
  | none => exact .none
  | some b => exact .some (b.withOwners_sameButOwners os)

/-- A change whose bindings have other owners agrees with it. -/
theorem withOwners_agreesWith (c : Change) (held wanted : Option (List Owner)) :
    (c.withOwners held wanted).AgreesWith c where
  kind := rfl
  ns := rfl
  template := rfl
  bindingName := by
    obtain ⟨kind, ns, template, existing, desired⟩ := c
    cases desired with
    | some b => rfl
    | none => cases existing <;> rfl
  existing := rel_withOwners c.existing held
  desired := rel_withOwners c.desired wanted

end Change

/-- What a required key calls for, with other owners on both sides. -/
theorem changesAt_withOwners (k : BindingKey) (g : Grant) (held? : Option Held)
    (os os' : Option (List Owner)) :
    changesAt k (g.withOwners os) (held?.map (·.withOwners os')) =
      (changesAt k g held?).map (·.withOwners os' os) := by
  cases held? with
  | none => rfl
  | some held =>
      have hrole : (held.withOwners os').binding.roleRef ≠ (g.withOwners os).binding.roleRef ↔
          held.binding.roleRef ≠ g.binding.roleRef := Iff.rfl
      have hrefresh : (held.withOwners os').binding.needsRefresh (g.withOwners os).binding =
          held.binding.needsRefresh g.binding := rfl
      simp only [Option.map_some, changesAt, hrole, hrefresh]
      split_ifs <;> rfl

/-- The baseline with other owners of all that is held. -/
def Baseline.withOwners (b : Baseline) (owners : Option (List Owner)) : Baseline :=
  b.mapValues fun _ h => h.withOwners owners

/-- What a template gives says in its labels which template that is. -/
theorem Builder.build_template? (b : Builder) (t : Template) (ns : String) :
    (b.build t ns).template? = some t.name := by
  have hlabel : (Binding.trackingLabels b.tree t.name).get? Binding.templateLabel = some t.name :=
    Binding.trackingLabels_get?_eq_some_iff.2 (.inr (.inr ⟨rfl, rfl⟩))
  exact hlabel

namespace DesiredSet

/-- The bindings of a desired set, in key order. -/
def bindings (d : DesiredSet) : List Binding := d.values.map (·.binding)

/-- The desired set with other owners of all bindings. -/
def withOwners (d : DesiredSet) (owners : Option (List Owner)) : DesiredSet :=
  d.mapValues fun _ g => g.withOwners owners

/-- **Owners do not change the changes.** -/
theorem changesFrom_withOwners (d : DesiredSet) (held : Baseline)
    (os os' : Option (List Owner)) :
    (d.withOwners os).changesFrom (held.withOwners os') =
      (d.changesFrom held).map (·.withOwners os' os) := by
  have hcontains : ∀ k, (d.withOwners os).contains k = d.contains k := by
    intro k
    simp only [OrderedMap.contains, withOwners, OrderedMap.get?_mapValues, Option.isSome_map]
  have hget : ∀ k, (held.withOwners os').get? k = (held.get? k).map (·.withOwners os') :=
    OrderedMap.get?_mapValues held _
  rw [changesFrom, changesFrom, List.map_append]
  congr 1
  · simp only [withOwners, OrderedMap.mapValues, List.flatMap_map, List.map_flatMap, hget,
      changesAt_withOwners]
  · simp only [OrderedMap.filter, hcontains, Baseline.withOwners, OrderedMap.mapValues,
      List.filter_map, List.map_map]
    rfl

/-- It does not matter whether owners are set before or after a desired set is taken for
what stands. -/
theorem baseline_withOwners (d : DesiredSet) (os : Option (List Owner)) :
    (d.withOwners os).baseline = d.baseline.withOwners os := by
  simp only [baseline, withOwners, Baseline.withOwners, OrderedMap.mapValues, List.map_map]
  rfl

/-- Owners are all that differs. -/
theorem withOwners_agrees (d : DesiredSet) (os : Option (List Owner)) :
    (d.withOwners os).keys = d.keys ∧
      ∀ k, Option.Rel Grant.AgreesWith ((d.withOwners os).get? k) (d.get? k) := by
  constructor
  · simp [OrderedMap.keys, withOwners, OrderedMap.mapValues]
  · intro k
    rw [withOwners, OrderedMap.get?_mapValues]
    cases d.get? k with
    | none => exact .none
    | some g => exact .some (g.withOwners_agreesWith os)

/-- One tree's emissions collapse under another owner to the same grants with other
owners. -/
theorem Collapses.withOwners {tree : String} {owner owner' : Option Owner} {es : List Emission}
    {set : DesiredSet} (h : Collapses ⟨tree, owner⟩ es set) :
    Collapses ⟨tree, owner'⟩ es (set.withOwners (owner'.map ([·]))) where
  get?_eq k := by
    rw [DesiredSet.withOwners, OrderedMap.get?_mapValues, h.get?_eq, Option.map_map]
    rfl
  same := h.same

/-- The bindings of a desired set say themselves where they belong and where they
come from. -/
theorem Collapses.baseline_eq_ofBindings {b : Builder} {es : List Emission} {set : DesiredSet}
    (h : Collapses b es set) : set.baseline = .ofBindings set.bindings := by
  have hread : ∀ e ∈ set.entries,
      (e.2.binding.key, (⟨e.2.binding, e.2.binding.template?.getD ""⟩ : Held)) =
        (e.1, ⟨e.2.binding, e.2.template.name⟩) := by
    intro e he
    obtain ⟨emission, -, hkey, hgrant⟩ := h.exists_emission (OrderedMap.mem_entries_iff.1 he)
    have htemplate : e.2.binding.template? = some e.2.template.name := by
      rw [hgrant]
      exact Builder.build_template? b emission.template emission.ns
    have hkey' : e.2.binding.key = e.1 := by
      rw [hgrant]
      exact hkey
    rw [hkey', htemplate]
    rfl
  calc set.baseline = .ofList set.baseline.entries := (OrderedMap.ofList_entries _).symm
    _ = .ofBindings set.bindings := by
      rw [Baseline.ofBindings, bindings, OrderedMap.values, List.map_map, List.map_map]
      exact congrArg OrderedMap.ofList (List.map_congr_left hread).symm

end DesiredSet

namespace FolderTree

variable {t : FolderTree} {set : DesiredSet} {k : BindingKey} {g : Grant}

/-- What a tree requires does not depend on the owner, but for the owner itself;
nor does the conflict that it is refused for. -/
theorem desired_withOwner (t : FolderTree) (tree : String) (owner owner' : Option Owner) :
    t.desired ⟨tree, owner'⟩ =
      (t.desired ⟨tree, owner⟩).map (·.withOwners (owner'.map ([·]))) := by
  cases hdesired : t.desired ⟨tree, owner⟩ with
  | error c =>
      obtain ⟨before, e, after, hes, hc, hcontra, hfirst⟩ := desired_eq_error_iff.1 hdesired
      exact desired_eq_error_iff.2 ⟨before, e, after, hes, hc, hcontra, hfirst⟩
  | ok set =>
      have hset := desired_eq_ok_iff.1 hdesired
      exact desired_eq_ok_iff.2 hset.withOwners

/-- What a pass requires is what a review looks at, with owners. -/
theorem ownedDesired_eq (t : FolderTree) :
    t.ownedDesired = t.unownedDesired.map (·.withOwners (t.controllerOwner?.map ([·]))) :=
  t.desired_withOwner t.name none t.controllerOwner?

/-- The tree requires a binding at the key. -/
def Requires (t : FolderTree) (k : BindingKey) : Prop :=
  ∃ set, t.ownedDesired = .ok set ∧ k ∈ set.keys

/-- A review sees the same keys required. -/
theorem requires_iff_unowned :
    t.Requires k ↔ ∃ set, t.unownedDesired = .ok set ∧ k ∈ set.keys := by
  rw [Requires, ownedDesired_eq]
  cases t.unownedDesired with
  | error c => simp [Except.map]
  | ok set => simp [Except.map, (set.withOwners_agrees _).1]

/-- A tree requires the keys of its desired set. -/
theorem requires_of_owned (hset : t.ownedDesired = .ok set) (hg : set.get? k = some g) :
    t.Requires k :=
  ⟨set, hset, OrderedMap.mem_keys_iff.2 ⟨g, hg⟩⟩

/-- It requires those that a review calculates. -/
theorem requires_of_unowned (hset : t.unownedDesired = .ok set) (hg : set.get? k = some g) :
    t.Requires k :=
  requires_iff_unowned.2 ⟨set, hset, OrderedMap.mem_keys_iff.2 ⟨g, hg⟩⟩

/-- A pass that lists what a review takes for its baseline makes the changes that
the review looks at. -/
theorem changesFrom_eq_ofBindings {old new : FolderTree} {before after : DesiredSet}
    (hold : old.unownedDesired = .ok before) (hnew : new.unownedDesired = .ok after) :
    changesFrom (some old) new = .ok (after.changesFrom (.ofBindings before.bindings)) := by
  have hbaseline := (desired_eq_ok_iff.1 hold).baseline_eq_ofBindings
  exact changesFrom_some_eq_ok_iff.2 ⟨before, after, hold, hnew, by rw [hbaseline]⟩

/-- With owners on all bindings, it makes the same changes with owners. -/
theorem exists_owned_changes {old new : FolderTree} {before after : DesiredSet}
    (hold : old.unownedDesired = .ok before) (hnew : new.unownedDesired = .ok after) :
    ∃ before' after', old.ownedDesired = .ok before' ∧ new.ownedDesired = .ok after' ∧
      after'.changesFrom (.ofBindings before'.bindings) =
        (after.changesFrom (.ofBindings before.bindings)).map
          (·.withOwners (old.controllerOwner?.map ([·])) (new.controllerOwner?.map ([·]))) := by
  have hold' : old.ownedDesired = .ok (before.withOwners (old.controllerOwner?.map ([·]))) := by
    rw [ownedDesired_eq, hold]
    rfl
  have hnew' : new.ownedDesired = .ok (after.withOwners (new.controllerOwner?.map ([·]))) := by
    rw [ownedDesired_eq, hnew]
    rfl
  refine ⟨_, _, hold', hnew', ?_⟩
  rw [← (desired_eq_ok_iff.1 hold').baseline_eq_ofBindings,
    ← (desired_eq_ok_iff.1 hold).baseline_eq_ofBindings, DesiredSet.baseline_withOwners,
    DesiredSet.changesFrom_withOwners]

/-- **A review and a pass see the same changes.**  Whether a tree is refused, and for
which conflict, does not depend on owners, nor do the keys that it requires and
what the grants at them come from.  The changes between two versions that a review
works out are, one by one and in order, those of a pass over the listed bindings of
the old version; and where a pass gives its bindings owners, it does the same under
the same names, to bindings that differ in their owners at most. -/
theorem changes_agree :
    (∀ t : FolderTree,
      (∀ c, t.ownedDesired = .error c ↔ t.unownedDesired = .error c) ∧
      ((∃ set, t.ownedDesired = .ok set) ↔ ∃ set, t.unownedDesired = .ok set) ∧
      ∀ set set', t.unownedDesired = .ok set → t.ownedDesired = .ok set' →
        set'.keys = set.keys ∧
          ∀ k, Option.Rel Grant.AgreesWith (set'.get? k) (set.get? k)) ∧
    ∀ (old new : FolderTree) (before after : DesiredSet),
      old.unownedDesired = .ok before → new.unownedDesired = .ok after →
        changesFrom (some old) new = .ok (after.changesFrom (.ofBindings before.bindings)) ∧
        ∃ before' after', old.ownedDesired = .ok before' ∧ new.ownedDesired = .ok after' ∧
          List.Forall₂ Change.AgreesWith (after'.changesFrom (.ofBindings before'.bindings))
            (after.changesFrom (.ofBindings before.bindings)) := by
  refine ⟨fun t => ?_, fun old new before after hold hnew => ?_⟩
  · rw [ownedDesired_eq]
    cases t.unownedDesired with
    | error c => simp [Except.map]
    | ok set =>
        refine ⟨by simp [Except.map], by simp [Except.map], fun set₁ set₂ h₁ h₂ => ?_⟩
        obtain rfl := Except.ok.inj h₁
        obtain rfl := Except.ok.inj h₂
        exact set.withOwners_agrees _
  · refine ⟨changesFrom_eq_ofBindings hold hnew, ?_⟩
    obtain ⟨before', after', hold', hnew', hchanges⟩ := exists_owned_changes hold hnew
    refine ⟨before', after', hold', hnew', ?_⟩
    rw [hchanges, List.forall₂_map_left_iff, List.forall₂_same]
    exact fun c _ => c.withOwners_agreesWith _ _

/-- The platform after a change of plans: another role for `edit`, another group for
`admin`, `audit` under a new name, and the tree made anew. -/
def revisedPlatform : FolderTree where
  metadata := { name := some "platform", uid := some "uid-2" }
  spec :=
    { root := some ⟨"org", [⟨"teams", [⟨"api", []⟩]⟩]⟩
      folders :=
        [{ name := "org"
           templates :=
             [⟨"admin", [.group "sre"], .clusterRole "admin", some true⟩,
              ⟨"inspect", [.user "eve"], .clusterRole "view", none⟩]
           namespaces := ["org-ns"] },
         { name := "sandbox"
           templates := [⟨"edit", [.user "dev"], .clusterRole "view", some true⟩]
           namespaces := ["sandbox-ns"] }] }

theorem changes_agree_platform :
    ∃ before after before' after', platform.unownedDesired = .ok before ∧
      revisedPlatform.unownedDesired = .ok after ∧ platform.ownedDesired = .ok before' ∧
      revisedPlatform.ownedDesired = .ok after' ∧
      (after.changesFrom (.ofBindings before.bindings)).map Change.kind =
        [.update, .create, .delete, .create, .delete, .delete] ∧
      changesFrom (some platform) revisedPlatform =
        .ok (after.changesFrom (.ofBindings before.bindings)) ∧
      List.Forall₂ Change.AgreesWith (after'.changesFrom (.ofBindings before'.bindings))
        (after.changesFrom (.ofBindings before.bindings)) ∧
      after'.changesFrom (.ofBindings before'.bindings) ≠
        after.changesFrom (.ofBindings before.bindings) := by
  obtain ⟨hsame, before', after', hbefore', hafter', hagree⟩ :=
    changes_agree.2 platform revisedPlatform _ _ rfl rfl
  refine ⟨_, _, before', after', rfl, rfl, hbefore', hafter', by decide, hsame, hagree, ?_⟩
  intro heq
  cases hbefore'
  cases hafter'
  have howners := congrArg (List.map fun c => c.desired.bind (·.metadata.owners)) heq
  exact absurd howners (by decide)

end FolderTree

end FolderGrants
