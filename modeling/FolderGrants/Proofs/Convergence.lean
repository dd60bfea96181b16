import FolderGrants.Proofs.MadeChanges

/-!
# A pass that succeeds leaves a converged cluster

The list of changes falls into parts, one for each required key and one for
each key that is no longer required.  A part touches its own key only, so what
stands at a key after all changes is what its part has left there: a binding
that serves the key, or no binding of the tree any more.

* `Baseline.get?_ofListed_iff` — what a pass sees is what carries the label;
* `CallsFor.serves_of_chain` — the part of a required key leaves it served;
* `DesiredSet.serves_of_chain`, `DesiredSet.inOrder_of_chain` — all changes
  together leave every required key served, and what carries the label in order;
* `FolderTree.converged_of_syncBindings` — a pass that succeeds has converged.
-/

namespace FolderGrants

namespace Cluster

/-- Every binding is stored under its own key. -/
def Keyed (K : Cluster) : Prop := ∀ k b, K.bindings.get? k = some b → b.key = k

/-- No binding at `k` carries the label of the tree. -/
def Clear (K : Cluster) (tree : String) (k : BindingKey) : Prop :=
  ∀ b, K.bindings.get? k = some b → b.tree? ≠ some tree

variable {K : Cluster} {tree : String} {k : BindingKey} {b : Binding}

/-- Bindings that are stored under their own keys are found there. -/
theorem keyed_of_bindings (bs : List Binding)
    (h : K.bindings = .ofList (bs.map fun b => (b.key, b))) : K.Keyed := by
  intro k b hb
  rw [h] at hb
  obtain ⟨b', -, heq⟩ := List.mem_map.1 (OrderedMap.mem_of_get?_ofList hb)
  obtain ⟨rfl, rfl⟩ := Prod.mk.inj heq
  rfl

/-- The bindings of a tree are those stored ones that carry its label. -/
theorem mem_bindingsOf_iff :
    b ∈ K.bindingsOf tree ↔ (∃ k, K.bindings.get? k = some b) ∧ b.tree? = some tree := by
  simp only [bindingsOf, List.mem_filter, OrderedMap.values, List.mem_map, Prod.exists,
    OrderedMap.mem_entries_iff, exists_eq_right, beq_iff_eq]

/-- The bindings of a tree depend on nothing else that is stored. -/
theorem bindingsOf_of_eq {K' : Cluster} (h : K'.bindings = K.bindings) (tree : String) :
    K'.bindingsOf tree = K.bindingsOf tree := by
  rw [bindingsOf, bindingsOf, h]

/-- The bindings that are listed have keys of their own. -/
theorem Keyed.bindingsOf_nodup (h : K.Keyed) (tree : String) :
    ((K.bindingsOf tree).map Binding.key).Nodup := by
  have hkeys : K.bindings.values.map Binding.key = K.bindings.keys := by
    rw [OrderedMap.values, OrderedMap.keys, List.map_map]
    apply List.map_congr_left
    intro e he
    exact h e.1 e.2 (OrderedMap.mem_entries_iff.1 he)
  have hsub : ((K.bindingsOf tree).map Binding.key).Sublist K.bindings.keys := by
    rw [← hkeys]
    exact List.filter_sublist.map _
  exact hsub.nodup K.bindings.keys_nodup

end Cluster

/-- What is held at a key of listed bindings with distinct keys is the one with that
key, with the template that its label names. -/
theorem Baseline.get?_ofBindings_iff {live : List Binding} (hnodup : (live.map Binding.key).Nodup)
    {k : BindingKey} {held : Held} :
    (Baseline.ofBindings live).get? k = some held ↔
      held.binding ∈ live ∧ held.binding.key = k ∧
        held.template = held.binding.template?.getD "" := by
  have hkeys : ((live.map fun b : Binding =>
      (b.key, (⟨b, b.template?.getD ""⟩ : Held))).map (·.1)).Nodup := by
    rw [List.map_map]
    exact hnodup
  rw [Baseline.ofBindings, OrderedMap.get?_ofList_eq_some_iff hkeys, List.mem_map]
  constructor
  · intro h
    obtain ⟨b, hb, heq⟩ := h
    obtain ⟨rfl, rfl⟩ := Prod.mk.inj heq
    exact ⟨hb, rfl, rfl⟩
  · intro h
    obtain ⟨hb, rfl, htemplate⟩ := h
    exact ⟨held.binding, hb, by rw [← htemplate]⟩

/-- A pass sees the bindings that carry the label of its tree. -/
theorem Baseline.get?_ofListed_iff {K : Cluster} (hK : K.Keyed) {tree : String} {k : BindingKey}
    {held : Held} :
    (Baseline.ofBindings (K.bindingsOf tree)).get? k = some held ↔
      K.bindings.get? k = some held.binding ∧ held.binding.tree? = some tree ∧
        held.template = held.binding.template?.getD "" := by
  rw [Baseline.get?_ofBindings_iff (hK.bindingsOf_nodup tree), Cluster.mem_bindingsOf_iff]
  constructor
  · intro h
    obtain ⟨⟨⟨k', hk'⟩, htree⟩, hkey, htemplate⟩ := h
    obtain rfl := (hK k' _ hk').symm.trans hkey
    exact ⟨hk', htree, htemplate⟩
  · intro h
    obtain ⟨hb, htree, htemplate⟩ := h
    exact ⟨⟨⟨k, hb⟩, htree⟩, hK k _ hb, htemplate⟩

namespace Change

/-- A change has been made, and a deletion has left nothing. -/
def Settled (c : Change) (K K' : Cluster) : Prop :=
  (∃ o, c.Made K o K') ∧ (c.kind = .delete → K'.bindings.get? c.key = none)

variable {σ : Type} {api : Api σ} {cluster : σ → Cluster} {s s' : σ} {changes : List Change}
  {K K' : Cluster} {k : BindingKey} {template : String}

/-- Changes that have all been applied are settled, one after the other. -/
theorem settled_of_applyAll (htrue : api.Truthful cluster)
    (hhonest : api.DeletesHonestly cluster) {summary total : Summary}
    (h : applyAll api changes summary s = (.ok total, s')) :
    Chain Settled changes (cluster s) (cluster s') := by
  refine (chain_of_applyAll h).map cluster fun c s s' hstep => ?_
  obtain ⟨o, hstep⟩ := hstep
  refine ⟨⟨o, made_of_apply htrue hstep⟩, fun hkind => ?_⟩
  exact absent_of_apply htrue hhonest hkind hstep

/-- What is settled is done. -/
theorem done_of_settled (h : Chain Settled changes K K') : Chain Done changes K K' :=
  h.map id fun _ _ _ hstep => hstep.1

/-- A creation leaves the binding it makes, unless its namespace is missing. -/
theorem get?_of_creation {b : Binding} (h : (creation k template b).Settled K K')
    (hns : K'.hasNamespace k.ns = true) : K'.bindings.get? b.key = some b := by
  rcases Done.of_creation h.1 with ⟨-, -, rfl⟩ | ⟨hmissing, rfl⟩
  · exact Cluster.get?_putBinding_self _ _
  · exact absurd (hmissing.symm.trans hns) Bool.false_ne_true

/-- A renewal leaves the refreshed binding. -/
theorem get?_of_renewal {existing b : Binding}
    (h : (renewal k template existing b).Settled K K') :
    K'.bindings.get? existing.key = some (existing.refreshed b) := by
  obtain rfl := Done.of_renewal h.1
  exact Cluster.get?_putBinding_self _ _

end Change

/-- What a required key calls for leaves it served. -/
theorem CallsFor.serves_of_chain {k : BindingKey} {g : Grant} {held? : Option Held}
    {changes : List Change} {K K' : Cluster} (h : CallsFor k g held? changes)
    (hg : g.binding.key = k)
    (hheld : ∀ held, held? = some held → held.binding.key = k ∧
      K.bindings.get? k = some held.binding)
    (hchain : Chain Change.Settled changes K K') (hns : K'.hasNamespace k.ns = true) :
    ∃ b, K'.bindings.get? k = some b ∧ b.Serves g.binding := by
  cases h with
  | create =>
      obtain ⟨mid, hcreation, hend⟩ := Chain.cons_iff.1 hchain
      obtain rfl := Chain.nil_iff.1 hend
      exact ⟨g.binding, hg ▸ Change.get?_of_creation hcreation hns, .refl _⟩
  | recreate =>
      obtain ⟨mid, -, htail⟩ := Chain.cons_iff.1 hchain
      obtain ⟨mid', hcreation, hend⟩ := Chain.cons_iff.1 htail
      obtain rfl := Chain.nil_iff.1 hend
      exact ⟨g.binding, hg ▸ Change.get?_of_creation hcreation hns, .refl _⟩
  | @renew held =>
      obtain ⟨mid, hrenewal, hend⟩ := Chain.cons_iff.1 hchain
      obtain rfl := Chain.nil_iff.1 hend
      have hkey := (hheld held rfl).1
      exact ⟨_, hkey ▸ Change.get?_of_renewal hrenewal, Binding.refreshed_serves _ _⟩
  | @keep held hserves =>
      obtain rfl := Chain.nil_iff.1 hchain
      exact ⟨held.binding, (hheld held rfl).2, hserves⟩

namespace DesiredSet

variable {desired : DesiredSet} {baseline : Baseline} {K K' : Cluster} {k : BindingKey} {g : Grant}

/-- The changes of one required key, and the changes of other keys around them. -/
theorem changesFrom_split (hdesired : desired.Keyed) (hbaseline : baseline.Keyed)
    (hg : desired.get? k = some g) :
    ∃ before after,
      desired.changesFrom baseline = before ++ (changesAt k g (baseline.get? k) ++ after) ∧
      (∀ c ∈ before, ∃ k', c.About k' ∧ k ≠ k') ∧ ∀ c ∈ after, ∃ k', c.About k' ∧ k ≠ k' := by
  obtain ⟨pre, post, hentries, hne⟩ := OrderedMap.entries_split hg
  have hparts : ∀ part : List (BindingKey × Grant), (∀ e ∈ part, e ∈ pre ++ post) →
      ∀ c ∈ part.flatMap fun e => changesAt e.1 e.2 (baseline.get? e.1),
        ∃ k', c.About k' ∧ k ≠ k' := by
    intro part hpart c hc
    obtain ⟨e, he, hc⟩ := List.mem_flatMap.1 hc
    have hentry : e ∈ desired.entries := by
      rw [hentries]
      have hmem := List.mem_append.1 (hpart e he)
      exact List.mem_append.2 (hmem.imp_right (List.mem_cons_of_mem _))
    have hkey := hdesired e.1 e.2 (OrderedMap.mem_entries_iff.1 hentry)
    have habout := (changesAt_callsFor e.1 e.2 _).about (hbaseline e.1) hkey hc
    exact ⟨e.1, habout, (hne e (hpart e he)).symm⟩
  have hremovals : ∀ c ∈ (baseline.filter fun k _ => !desired.contains k).entries.map
      fun e => Change.removal e.1 e.2, ∃ k', c.About k' ∧ k ≠ k' := by
    intro c hc
    obtain ⟨e, he, rfl⟩ := List.mem_map.1 hc
    have hfilter := OrderedMap.mem_entries_iff.1 he
    rw [OrderedMap.get?_filter, Option.filter_eq_some_iff] at hfilter
    refine ⟨e.1, Change.removal_about (hbaseline e.1 e.2 hfilter.1), fun hk => ?_⟩
    have hnone := hfilter.2
    rw [← hk, OrderedMap.contains, hg] at hnone
    cases hnone
  have hsplit : desired.changesFrom baseline =
      (pre.flatMap fun e => changesAt e.1 e.2 (baseline.get? e.1)) ++
        (changesAt k g (baseline.get? k) ++
          ((post.flatMap fun e => changesAt e.1 e.2 (baseline.get? e.1)) ++
            (baseline.filter fun k _ => !desired.contains k).entries.map
              fun e => Change.removal e.1 e.2)) := by
    rw [changesFrom, hentries, List.flatMap_append, List.flatMap_cons, List.append_assoc,
      List.append_assoc]
  refine ⟨_, _, hsplit, hparts pre fun e => List.mem_append_left _, fun c hc => ?_⟩
  rcases List.mem_append.1 hc with hpost | hremoval
  · exact hparts post (fun e => List.mem_append_right _) c hpost
  · exact hremovals c hremoval

/-- All changes together leave every required key served. -/
theorem serves_of_chain (hdesired : desired.Keyed) (hbaseline : baseline.Keyed)
    (hheld : ∀ k held, baseline.get? k = some held → K.bindings.get? k = some held.binding)
    (hchain : Chain Change.Settled (desired.changesFrom baseline) K K')
    (hg : desired.get? k = some g) (hns : K'.hasNamespace k.ns = true) :
    ∃ b, K'.bindings.get? k = some b ∧ b.Serves g.binding := by
  obtain ⟨before, after, hsplit, hbefore, hafter⟩ := changesFrom_split hdesired hbaseline hg
  rw [hsplit, Chain.append_iff] at hchain
  obtain ⟨K₁, hchain₁, hchain⟩ := hchain
  obtain ⟨K₂, hchain₂, hchain₃⟩ := Chain.append_iff.1 hchain
  have hheld₁ : ∀ held, baseline.get? k = some held → held.binding.key = k ∧
      K₁.bindings.get? k = some held.binding := by
    intro held hk
    refine ⟨hbaseline k held hk, ?_⟩
    rw [Change.get?_of_done (Change.done_of_settled hchain₁) hbefore]
    exact hheld k held hk
  have hns₂ : K₂.hasNamespace k.ns = true := by
    rw [Cluster.hasNamespace, ← Change.namespaces_of_done (Change.done_of_settled hchain₃)]
    exact hns
  have hcalls := changesAt_callsFor k g (baseline.get? k)
  obtain ⟨b, hb, hserves⟩ := hcalls.serves_of_chain (hdesired k g hg) hheld₁ hchain₂ hns₂
  refine ⟨b, ?_, hserves⟩
  rw [Change.get?_of_done (Change.done_of_settled hchain₃) hafter]
  exact hb

/-- What stands at `k` and carries the label of the tree serves what is required there. -/
def InOrder (desired : DesiredSet) (tree : String) (k : BindingKey) (K : Cluster) : Prop :=
  ∀ b, K.bindings.get? k = some b → b.tree? = some tree →
    ∃ g, desired.get? k = some g ∧ b.Serves g.binding

/-- A change that is due brings its own key into order, or has nothing to bring there: a
creation leaves in order what is. -/
theorem inOrder_of_due {tree : String} (hdesired : desired.Keyed) (hbaseline : baseline.Keyed)
    {c : Change} (hdue : c.Due desired baseline) (habout : c.About k) (hstep : c.Settled K K')
    (h : c.kind = .create → desired.InOrder tree k K) : desired.InOrder tree k K' := by
  intro b hb htree
  cases hdue with
  | @creation k' g hg _ =>
      have hkey := hdesired k' g hg
      obtain rfl : k' = k := (Change.creation_about hkey).key.symm.trans habout.key
      rcases Change.Done.of_creation hstep.1 with ⟨-, -, rfl⟩ | ⟨-, rfl⟩
      · have hnew : (K.putBinding g.binding).bindings.get? k' = some g.binding :=
          hkey ▸ Cluster.get?_putBinding_self K g.binding
        obtain rfl := Option.some.inj (hb.symm.trans hnew)
        exact ⟨g, hg, .refl _⟩
      · exact h rfl b hb htree
  | @renewal k' g held hg hheld _ _ =>
      have hkey := hbaseline k' held hheld
      obtain rfl : k' = k :=
        (Change.renewal_about hkey (hdesired k' g hg)).key.symm.trans habout.key
      have hnew : K'.bindings.get? k' = some (held.binding.refreshed g.binding) :=
        hkey ▸ Change.get?_of_renewal hstep
      obtain rfl := Option.some.inj (hb.symm.trans hnew)
      exact ⟨g, hg, Binding.refreshed_serves _ _⟩
  | removal =>
      have hgone := hstep.2 rfl
      rw [habout.key, hb] at hgone
      cases hgone

/-- All changes together bring every key into order, if the baseline holds what carries
the label of the tree. -/
theorem inOrder_of_chain {tree : String} (hdesired : desired.Keyed) (hbaseline : baseline.Keyed)
    (hheld : ∀ b, K.bindings.get? k = some b → b.tree? = some tree →
      ∃ template, baseline.get? k = some ⟨b, template⟩)
    (hchain : Chain Change.Settled (desired.changesFrom baseline) K K') :
    desired.InOrder tree k K' := by
  have hkeep : ∀ c ∈ desired.changesFrom baseline, ∀ K₁ K₂, c.Settled K₁ K₂ →
      desired.InOrder tree k K₁ → desired.InOrder tree k K₂ := by
    intro c hc K₁ K₂ hstep horder
    have hdue := mem_changesFrom_iff_due.1 hc
    obtain ⟨k', habout⟩ := hdue.about hdesired hbaseline
    by_cases hk : k = k'
    · exact inOrder_of_due hdesired hbaseline hdue (hk ▸ habout) hstep fun _ => horder
    · obtain ⟨o, hmade⟩ := hstep.1
      intro b hb htree
      rw [hmade.get?_of_ne habout hk] at hb
      exact horder b hb htree
  -- A renewal or a removal at `k` brings it into order whatever came before.
  have hreach : ∀ c : Change, c.Due desired baseline → c.About k → c.kind ≠ .create →
      desired.InOrder tree k K' := by
    intro c hdue habout hkind
    refine hchain.establishes hkeep (fun K₁ K₂ hstep => ?_) (mem_changesFrom_iff_due.2 hdue)
    exact inOrder_of_due hdesired hbaseline hdue habout hstep fun hcreate => absurd hcreate hkind
  by_cases hstart : desired.InOrder tree k K
  · exact hchain.keeps hkeep hstart
  · obtain ⟨b, hb, htree, hidle⟩ : ∃ b, K.bindings.get? k = some b ∧ b.tree? = some tree ∧
        ¬∃ g, desired.get? k = some g ∧ b.Serves g.binding := by
      simpa only [InOrder, Classical.not_forall, exists_prop] using hstart
    obtain ⟨template, hlisted⟩ := hheld b hb htree
    have hkey := hbaseline k _ hlisted
    by_cases hrole : ∃ g, desired.get? k = some g ∧ b.roleRef = g.binding.roleRef
    · obtain ⟨g, hg, hrole⟩ := hrole
      have hrefresh : b.needsRefresh g.binding = true := by
        rw [← Bool.not_eq_false]
        exact fun hnone => hidle ⟨g, hg, Binding.needsRefresh_eq_false_iff.1 hnone⟩
      exact hreach _ (.renewal hg hlisted hrole hrefresh)
        (Change.renewal_about hkey (hdesired k g hg)) nofun
    · exact hreach _ (.removal hlisted fun g hg heq => hrole ⟨g, hg, heq⟩)
        (Change.removal_about hkey) nofun

end DesiredSet

namespace FolderTree

variable {σ : Type} {api : Api σ} {cluster : σ → Cluster} {t : FolderTree} {s s' : σ}
  {summary : Summary}

/-- A pass that succeeds has made the changes between what the tree requires and
what its cluster held, if the server tells the truth. -/
theorem settled_of_truthful (htrue : api.Truthful cluster)
    (hhonest : api.DeletesHonestly cluster) (h : t.syncBindings api s = (.ok summary, s')) :
    ∃ desired, t.ownedDesired = .ok desired ∧
      Chain Change.Settled
        (desired.changesFrom (.ofBindings ((cluster s).bindingsOf t.name)))
        (cluster s) (cluster s') := by
  obtain ⟨desired, mid, hcompute, hrest⟩ := Action.bind_eq_ok_iff.1 h
  obtain ⟨hdesired, rfl⟩ := Action.ofExcept_mapError_eq_ok_iff.1 hcompute
  obtain ⟨live, mid, hlist, happly⟩ := Action.bind_eq_ok_iff.1 hrest
  obtain ⟨hlive, hmid⟩ := Action.outcome_eq_iff.1 (htrue.list t.name _ _ _ hlist)
  obtain rfl := Except.ok.inj hlive
  have hchain := Change.settled_of_applyAll htrue hhonest happly
  rw [← hmid] at hchain
  exact ⟨desired, hdesired, hchain⟩

/-- A pass that succeeds settles the changes between what is wanted and what stood. -/
theorem settled_of_syncBindings (hsafe : api.FailsSafely cluster)
    (hhonest : api.DeletesHonestly cluster) (h : t.syncBindings api s = (.ok summary, s')) :
    ∃ desired, t.ownedDesired = .ok desired ∧
      Chain Change.Settled
        (desired.changesFrom (.ofBindings ((cluster s).bindingsOf t.name)))
        (cluster s) (cluster s') :=
  settled_of_truthful hsafe.truthful hhonest h

/-- Every wanted binding has the three labels of its tree and template. -/
theorem desired_labels {b : Builder} {set : DesiredSet} (h : t.desired b = .ok set)
    {k : BindingKey} {g : Grant} (hg : set.get? k = some g) :
    g.binding.labels = Binding.trackingLabels b.tree g.template.name := by
  obtain ⟨e, -, -, rfl⟩ := (desired_eq_ok_iff.1 h).exists_emission hg
  rfl

section Settled

variable {desired : DesiredSet} {K K' : Cluster} {k : BindingKey}

/-- After the changes over what carries the label, every required key whose
namespace exists is served. -/
theorem served_of_settled (hdesired : t.ownedDesired = .ok desired) (hkeyed : K.Keyed)
    (hchain : Chain Change.Settled (desired.changesFrom (.ofBindings (K.bindingsOf t.name))) K K')
    {g : Grant} (hg : desired.get? k = some g) (hns : K'.hasNamespace k.ns = true) :
    ∃ b, K'.bindings.get? k = some b ∧ b.Serves g.binding := by
  refine DesiredSet.serves_of_chain (desired_keyed hdesired) (Baseline.ofBindings_keyed _) ?_
    hchain hg hns
  intro k held hheld
  exact ((Baseline.get?_ofListed_iff hkeyed).1 hheld).1

/-- After the changes over what carries the label, what carries it serves a required
key. -/
theorem inOrder_of_settled (hdesired : t.ownedDesired = .ok desired) (hkeyed : K.Keyed)
    (hchain : Chain Change.Settled (desired.changesFrom (.ofBindings (K.bindingsOf t.name))) K K')
    (k : BindingKey) : desired.InOrder t.name k K' := by
  refine DesiredSet.inOrder_of_chain (desired_keyed hdesired) (Baseline.ofBindings_keyed _) ?_
    hchain
  intro b hb htree
  exact ⟨b.template?.getD "", (Baseline.get?_ofListed_iff hkeyed).2 ⟨hb, htree, rfl⟩⟩

/-- After the changes over what carries the label, nothing carries it but at
required keys. -/
theorem required_of_settled (hdesired : t.ownedDesired = .ok desired) (hkeyed : K.Keyed)
    (hchain : Chain Change.Settled (desired.changesFrom (.ofBindings (K.bindingsOf t.name))) K K')
    {b : Binding} (hb : K'.bindings.get? k = some b) (htree : b.tree? = some t.name) :
    ∃ g, desired.get? k = some g := by
  obtain ⟨g, hg, -⟩ := inOrder_of_settled hdesired hkeyed hchain k b hb htree
  exact ⟨g, hg⟩

/-- What serves a required key carries its three tracking labels. -/
theorem tracking_of_serves (hdesired : t.ownedDesired = .ok desired) {g : Grant}
    (hg : desired.get? k = some g) {b : Binding} (hserves : b.Serves g.binding) :
    b.labels.get? Binding.managedByLabel = some Binding.manager ∧
      b.labels.get? Binding.treeLabel = some t.name ∧
      b.labels.get? Binding.templateLabel = some g.template.name := by
  have htracking : ∀ l v, (Binding.trackingLabels t.name g.template.name).get? l = some v →
      b.labels.get? l = some v := by
    intro l v hl
    apply hserves.labels
    rw [desired_labels hdesired hg]
    exact hl
  refine ⟨?_, ?_, ?_⟩
  · exact htracking _ _ (Binding.trackingLabels_get?_eq_some_iff.2 (.inl ⟨rfl, rfl⟩))
  · exact htracking _ _ (Binding.trackingLabels_get?_eq_some_iff.2 (.inr (.inl ⟨rfl, rfl⟩)))
  · exact htracking _ _ (Binding.trackingLabels_get?_eq_some_iff.2 (.inr (.inr ⟨rfl, rfl⟩)))

end Settled

/-- The cluster holds what the tree requires and nothing else of it: every
required key whose namespace exists holds a binding with the role, the
subjects and the tracking labels that are required, and every binding that
carries the label of the tree sits at a required key. -/
structure Converged (t : FolderTree) (desired : DesiredSet) (K : Cluster) : Prop where
  served : ∀ k g, desired.get? k = some g → K.hasNamespace k.ns = true →
    ∃ b, K.bindings.get? k = some b ∧
      b.roleRef = g.binding.roleRef ∧
      b.subjectList.length = g.binding.subjectList.length ∧
      Subject.SameSet b.subjectList g.binding.subjectList ∧
      b.labels.get? Binding.managedByLabel = some Binding.manager ∧
      b.labels.get? Binding.treeLabel = some t.name ∧
      b.labels.get? Binding.templateLabel = some g.template.name
  required : ∀ k b, K.bindings.get? k = some b → b.tree? = some t.name →
    ∃ g, desired.get? k = some g

/-- **A pass that succeeds has converged.**  From any cluster, and whatever calls
fail on the way, if the pass gets through then the cluster holds what the tree
requires and nothing else of it. -/
theorem converged_of_syncBindings (hsafe : api.FailsSafely cluster)
    (hhonest : api.DeletesHonestly cluster) (hkeyed : (cluster s).Keyed)
    (h : t.syncBindings api s = (.ok summary, s')) :
    ∃ desired, t.ownedDesired = .ok desired ∧ t.Converged desired (cluster s') := by
  obtain ⟨desired, hdesired, hchain⟩ := settled_of_syncBindings hsafe hhonest h
  refine ⟨desired, hdesired, fun k g hg hns => ?_, fun k b hb htree => ?_⟩
  · obtain ⟨b, hb, hserves⟩ := served_of_settled hdesired hkeyed hchain hg hns
    exact ⟨b, hb, hserves.roleRef, hserves.length, hserves.subjects,
      tracking_of_serves hdesired hg hserves⟩
  · exact required_of_settled hdesired hkeyed hchain hb htree

/-- Bindings of the platform that have drifted: one lost its subjects and two of
its labels, one has another role, and one is no longer required. -/
def driftedPlatform : List Binding :=
  [{ metadata :=
       { name := some "foldertree-platform-audit", ns := some "org-ns"
         labels := some (.ofList [(Binding.treeLabel, "platform")]) }
     roleRef := .clusterRole "view" },
   { metadata :=
       { name := some "foldertree-platform-admin", ns := some "api-ns"
         labels := some (Binding.trackingLabels "platform" "admin") }
     subjects := some [.group "ops"]
     roleRef := .clusterRole "cluster-admin" },
   { metadata :=
       { name := some "foldertree-platform-old", ns := some "org-ns"
         labels := some (Binding.trackingLabels "platform" "old") }
     roleRef := .clusterRole "view" }]

/-- A cluster with these bindings that lacks the namespace of the sandbox. -/
def driftedCluster : Cluster where
  namespaces := .ofList [("api-ns", ()), ("org-ns", ())]
  bindings := .ofList (driftedPlatform.map fun b => (b.key, b))

/-- A server that breaks down after a while. -/
def breakdown (n : Nat) (_ : Call) : Option Fault :=
  if 20 ≤ n then some (.internal "server" "out of order") else none

/-- What comes of a pass over this cluster. -/
def repairedPlatform : Except Fault Summary × Nat × Cluster :=
  platform.syncBindings (Cluster.flaky breakdown) (0, driftedCluster)

theorem converged_of_syncBindings_platform :
    repairedPlatform.1 = .ok ⟨2, 1, 2, 1⟩ ∧
      ∃ desired, platform.ownedDesired = .ok desired ∧
        platform.Converged desired repairedPlatform.2.2 := by
  have hok : repairedPlatform.1 = .ok ⟨2, 1, 2, 1⟩ := rfl
  have hrun : platform.syncBindings (Cluster.flaky breakdown) (0, driftedCluster) =
      (.ok ⟨2, 1, 2, 1⟩, repairedPlatform.2) := Prod.ext hok rfl
  have hhonest : (Cluster.flaky breakdown).DeletesHonestly Prod.snd := by
    apply Cluster.flaky_deletesHonestly
    intro n key f hf
    unfold breakdown at hf
    by_cases hn : 20 ≤ n
    · rw [if_pos hn] at hf
      obtain rfl := Option.some.inj hf
      rfl
    · rw [if_neg hn] at hf
      cases hf
  have hkeyed : driftedCluster.Keyed := Cluster.keyed_of_bindings driftedPlatform rfl
  exact ⟨hok, converged_of_syncBindings (Cluster.flaky_failsSafely breakdown) hhonest hkeyed hrun⟩

end FolderTree

end FolderGrants
