import FolderGrants.Proofs.PassOutcome

/-!
# An interrupted pass can be resumed

A pass may be cut short at any call, and it may step over a deletion because the
server says that nothing is there.  What it leaves is *alike* to what it found: at
every key an undisturbed pass makes the same of both, and a key is taken
afterwards exactly if it was before.  Each change keeps this, so it holds however
many of them were made.  Keys behind the first one that is taken are not touched
at all.  The next pass therefore leaves what an undisturbed one would have left in
the first place.

* `DesiredSet.Alike` — what a pass makes the same of;
* `FolderTree.alike_of_done` — each change keeps it;
* `FolderTree.about_before_taken` — no pass gets past a key that is taken;
* `FolderTree.resumed_eq_uninterrupted` — the next pass makes up for everything.
-/

namespace FolderGrants

namespace DesiredSet

/-- An undisturbed pass makes the same of `o'` as of `o`, and both are foreign or
none is. -/
structure Alike (desired : DesiredSet) (tree : String) (found : Bool) (k : BindingKey)
    (o o' : Option Binding) : Prop where
  settle : desired.settle tree found k o' = desired.settle tree found k o
  foreign : foreign tree o' = foreign tree o

variable {desired : DesiredSet} {tree : String} {found : Bool} {k : BindingKey} {g : Grant}
  {o o' : Option Binding} {b : Binding}

theorem Alike.refl (desired : DesiredSet) (tree : String) (found : Bool) (k : BindingKey)
    (o : Option Binding) : desired.Alike tree found k o o := ⟨rfl, rfl⟩

/-- What a pass has brought to a required key is alike to what it has found there,
if that is what it settles to. -/
theorem alike_of_serves (hg : desired.get? k = some g) (htree : b.tree? = some tree)
    (hserves : b.Serves g.binding) (ho : foreign tree o = false)
    (hsettle : desired.settle tree found k o = some b) : desired.Alike tree found k o (some b) := by
  have hown := foreign_some_eq_false_iff.2 htree
  refine ⟨?_, hown.trans ho.symm⟩
  rw [settle_of_required hg hown, Grant.settle_of_serves found hserves, hsettle]

/-- One of the tree's own bindings that has been removed leaves a key alike, if it
is not required or has to be created anew. -/
theorem alike_of_removed (htree : b.tree? = some tree)
    (hrole : ∀ g, desired.get? k = some g → b.roleRef ≠ g.binding.roleRef) :
    desired.Alike tree found k (some b) none := by
  have hown := foreign_some_eq_false_iff.2 htree
  refine ⟨?_, hown.symm⟩
  cases hk : desired.get? k with
  | none => rw [settle_of_not_required hk hown, settle_of_not_required hk (foreign_none tree)]
  | some g =>
      rw [settle_of_required hk hown, settle_of_required hk (foreign_none tree), Grant.settle,
        Grant.settle, if_pos (hrole g hk)]

/-- At every key `K'` is alike to `K`. -/
def AlikeAll (desired : DesiredSet) (tree : String) (K K' : Cluster) : Prop :=
  ∀ k, desired.Alike tree (K.hasNamespace k.ns) k (K.bindings.get? k) (K'.bindings.get? k)

/-- A cluster that is changed to something alike at one key is still alike. -/
theorem AlikeAll.setTo {K K₁ K₂ : Cluster} (h : desired.AlikeAll tree K K₁)
    (hset : K₁.SetTo k o K₂)
    (ho : desired.Alike tree (K.hasNamespace k.ns) k (K.bindings.get? k) o) :
    desired.AlikeAll tree K K₂ := by
  intro k'
  by_cases hk : k' = k
  · subst hk
    rw [hset.here]
    exact ho
  · rw [hset.elsewhere k' hk]
    exact h k'

end DesiredSet

namespace Change

variable {K K' : Cluster}

/-- After a change that is done the bindings are still under their own keys. -/
theorem keyed_of_done {c : Change} (h : c.Done K K') (hK : K.Keyed) : K'.Keyed := by
  have hput : ∀ b, (K.putBinding b).Keyed := fun b =>
    hK.setTo (Cluster.setTo_putBinding K rfl) fun _ hb => Option.some.inj hb ▸ rfl
  have hremove : ∀ k, (K.removeBinding k).Keyed := fun k =>
    hK.setTo (Cluster.setTo_removeBinding K k) fun _ hb => by cases hb
  obtain ⟨o, hmade⟩ := h
  cases hmade with
  | created => exact hput _
  | skipped => exact hK
  | updated => exact hput _
  | deleted => exact hremove _
  | missing => exact hK

/-- Nothing has been created where something stands. -/
theorem creation_not_done {k : BindingKey} {template : String} {b held : Binding}
    (hkey : b.key = k) (hheld : K.bindings.get? k = some held)
    (hns : K.hasNamespace k.ns = true) : ¬(creation k template b).Done K K' := by
  intro h
  rcases Done.of_creation h with ⟨-, habsent, -⟩ | ⟨hmissing, -⟩
  · rw [hkey, hheld] at habsent
    cases habsent
  · exact Bool.false_ne_true (hmissing.symm.trans hns)

end Change

namespace FolderTree

variable {σ : Type} {api : Api σ} {cluster : σ → Cluster} {t : FolderTree} {s s' : σ}
  {desired : DesiredSet} {K K₁ K₂ : Cluster}

/-- Every wanted binding carries the label of the tree that it is built for. -/
theorem desired_tree? {b : Builder} (h : t.desired b = .ok desired) {k : BindingKey} {g : Grant}
    (hg : desired.get? k = some g) : g.binding.tree? = some b.tree := by
  rw [Binding.tree?, desired_labels h hg]
  exact Binding.trackingLabels_get?_eq_some_iff.2 (.inr (.inl ⟨rfl, rfl⟩))

/-- What is refreshed to a required binding is one of the tree's own. -/
theorem refreshed_tree? {b : Builder} (h : t.desired b = .ok desired) {k : BindingKey} {g : Grant}
    (hg : desired.get? k = some g) (existing : Binding) :
    (existing.refreshed g.binding).tree? = some b.tree := by
  rw [Binding.tree?, Binding.refreshed_labels_get?, ← Binding.tree?, desired_tree? h hg,
    Option.some_or]

/-- **Every change keeps the clusters alike**, in whatever order changes are made
and whatever deletions are stepped over. -/
theorem alike_of_done (hK : K.Keyed) (hdesired : t.ownedDesired = .ok desired) {c : Change}
    (hc : c ∈ desired.changesFrom (.ofBindings (K.bindingsOf t.name))) (hdone : c.Done K₁ K₂)
    (hns : K₁.namespaces = K.namespaces) (h : desired.AlikeAll t.name K K₁) :
    desired.AlikeAll t.name K K₂ := by
  cases DesiredSet.mem_changesFrom_iff_due.1 hc with
  | @creation k g hg _ =>
      have hkey := desired_keyed hdesired k g hg
      rcases Change.Done.of_creation hdone with ⟨hfound, habsent, rfl⟩ | ⟨-, rfl⟩
      · -- It found nothing, so nothing of others stood there at the start either.
        have hk := h k
        rw [hkey] at habsent
        rw [habsent] at hk
        have hfound' : K.hasNamespace k.ns = true :=
          (Cluster.hasNamespace_of_eq hns k.ns).symm.trans hfound
        refine h.setTo (Cluster.setTo_putBinding K₁ hkey) ?_
        refine DesiredSet.alike_of_serves hg (desired_tree? hdesired hg) (.refl _)
          hk.foreign.symm ?_
        rw [← hk.settle, DesiredSet.settle_of_required hg (foreign_none _), Grant.settle, hfound',
          if_pos rfl]
      · exact h
  | @renewal k g held hg hheld hrole hrefresh =>
      obtain ⟨hstood, htree, -⟩ := (Baseline.get?_ofListed_iff hK).1 hheld
      obtain rfl := Change.Done.of_renewal hdone
      have hown := foreign_some_eq_false_iff.2 htree
      have hkey : (held.binding.refreshed g.binding).key = k := hK k held.binding hstood
      refine h.setTo (Cluster.setTo_putBinding K₁ hkey) ?_
      rw [hstood]
      refine DesiredSet.alike_of_serves hg (refreshed_tree? hdesired hg _)
        (Binding.refreshed_serves _ _) hown ?_
      rw [DesiredSet.settle_of_required hg hown, Grant.settle, if_neg (not_not_intro hrole),
        if_pos hrefresh]
  | @removal k held hheld hrole =>
      obtain ⟨hstood, htree, -⟩ := (Baseline.get?_ofListed_iff hK).1 hheld
      rcases Change.Done.of_removal (hK _ _ hstood) hdone with rfl | rfl
      · refine h.setTo (Cluster.setTo_removeBinding K₁ k) ?_
        rw [hstood]
        exact DesiredSet.alike_of_removed htree hrole
      · exact h

/-- However many changes have been made, the cluster is alike to what it was. -/
theorem alikeAll_of_chain (hK : K.Keyed) (hdesired : t.ownedDesired = .ok desired)
    {first rest : List Change}
    (hsplit : desired.changesFrom (.ofBindings (K.bindingsOf t.name)) = first ++ rest)
    (hchain : Chain Change.Done first K K₁) : desired.AlikeAll t.name K K₁ := by
  have hkept : K₁.namespaces = K.namespaces ∧ desired.AlikeAll t.name K K₁ := by
    refine hchain.keeps
      (P := fun K₁ => K₁.namespaces = K.namespaces ∧ desired.AlikeAll t.name K K₁) ?_
      ⟨rfl, fun k => .refl _ _ _ k _⟩
    intro c hc K₁ K₂ hdone h
    have hlisted : c ∈ desired.changesFrom (.ofBindings (K.bindingsOf t.name)) :=
      hsplit ▸ List.mem_append_left _ hc
    have hns := Change.namespaces_of_done (.cons hdone (.nil _))
    exact ⟨hns.trans h.1, alike_of_done hK hdesired hlisted hdone h.1 h.2⟩
  exact hkept.2

/-- A pass has made some of its changes, in order, and nothing else. -/
theorem done_of_syncBindings (hsafe : api.FailsSafely cluster)
    (hdesired : t.ownedDesired = .ok desired) {x : Except Fault Summary}
    (h : t.syncBindings api s = (x, s')) :
    ∃ first rest,
      desired.changesFrom (.ofBindings ((cluster s).bindingsOf t.name)) = first ++ rest ∧
      Chain Change.Done first (cluster s) (cluster s') := by
  have hrun : (api.list t.name >>= fun live =>
      Change.applyAll api (desired.changesFrom (.ofBindings live)) {}) s = (x, s') := by
    rw [syncBindings, hdesired] at h
    exact (Action.bind_run _ _ _).symm.trans h
  rw [Action.bind_run] at hrun
  rcases hlist : api.list t.name s with ⟨f | live, mid⟩
  · rw [hlist] at hrun
    obtain ⟨-, rfl⟩ := Action.outcome_eq_iff.1 hrun
    exact ⟨[], _, rfl, Chain.nil_iff.2 ((hsafe.list t.name).error hlist).symm⟩
  · rw [hlist] at hrun
    obtain ⟨hlive, hmid⟩ := Action.outcome_eq_iff.1 ((hsafe.list t.name).ok hlist)
    obtain rfl := Except.ok.inj hlive
    obtain ⟨first, rest, hsplit, hchain⟩ := Change.done_of_applyAll hsafe hrun
    rw [← hmid] at hchain
    exact ⟨first, rest, hsplit, hchain⟩

/-- What has been done up to a required key that is taken touches the keys before
it alone. -/
theorem about_before_taken (hK : K.Keyed) (hdesired : t.ownedDesired = .ok desired)
    {before after : List (BindingKey × Grant)} {k₀ : BindingKey} {g₀ : Grant}
    (hentries : desired.entries = before ++ (k₀, g₀) :: after)
    (htaken : K.taken t.name k₀ = true) {first rest : List Change}
    (hsplit : desired.changesFrom (.ofBindings (K.bindingsOf t.name)) = first ++ rest)
    (hchain : Chain Change.Done first K K₁) :
    ∀ c ∈ first, ∃ e ∈ before, c.About e.1 := by
  obtain ⟨hforeign, hexists⟩ := Bool.and_eq_true_iff.1 htaken
  obtain ⟨behind, hsplit'⟩ := changesFrom_of_foreign hK hentries hforeign
  have hkeyed := desired_keyed hdesired
  have habout : ∀ c ∈ before.flatMap (fun e =>
      changesAt e.1 e.2 ((Baseline.ofBindings (K.bindingsOf t.name)).get? e.1)),
      ∃ e ∈ before, c.About e.1 := by
    intro c hc
    obtain ⟨e, he, hc⟩ := List.mem_flatMap.1 hc
    have hg : desired.get? e.1 = some e.2 :=
      OrderedMap.mem_entries_iff.1 (hentries ▸ List.mem_append_left _ he)
    exact ⟨e, he, (changesAt_callsFor e.1 e.2 _).about (Baseline.ofBindings_keyed _ e.1)
      (hkeyed _ _ hg) hc⟩
  rcases List.append_eq_append_iff.1 (hsplit.symm.trans hsplit') with
    ⟨more, hmore, -⟩ | ⟨more, hmore, hrest⟩
  · intro c hc
    exact habout c (hmore ▸ List.mem_append_left _ hc)
  · cases more with
    | nil =>
        rw [List.append_nil] at hmore
        exact hmore ▸ habout
    | cons c more =>
        -- The creation at the taken key cannot have been made.
        obtain ⟨rfl, -⟩ := List.cons.inj hrest
        rw [hmore] at hchain
        obtain ⟨K₂, hchain, hcreation⟩ := Chain.append_iff.1 hchain
        obtain ⟨K₃, hdone, -⟩ := Chain.cons_iff.1 hcreation
        obtain ⟨b, hb, -⟩ := exists_of_foreign hforeign
        have hg := OrderedMap.get?_of_entries hentries
        have hstands : K₂.bindings.get? k₀ = some b := by
          rw [Change.get?_of_done hchain, hb]
          intro c hc
          obtain ⟨e, he, hc⟩ := habout c hc
          exact ⟨e.1, hc,
            (OrderedMap.key_ne_of_entries hentries e (List.mem_append_left _ he)).symm⟩
        have hns : K₂.hasNamespace k₀.ns = true := by
          rw [Cluster.hasNamespace_of_eq (Change.namespaces_of_done hchain), hexists]
        exact absurd hdone (Change.creation_not_done (hkeyed _ _ hg) hstands hns)

/-- Undisturbed passes from alike clusters lead to the same bindings, if the two
clusters agree behind the first required key that is taken. -/
theorem bindings_eq_of_alike (hdesired : t.ownedDesired = .ok desired) (hK : K.Keyed)
    (hK₁ : K₁.Keyed) (hns : K₁.namespaces = K.namespaces)
    (halike : desired.AlikeAll t.name K K₁)
    (hbehind : ∀ before k₀ g₀ after, desired.entries = before ++ (k₀, g₀) :: after →
      K.taken t.name k₀ = true → ∀ k, (∀ e ∈ before, e.1 ≠ k) →
        K₁.bindings.get? k = K.bindings.get? k) :
    (t.syncBindings Cluster.api K₁).2.bindings = (t.syncBindings Cluster.api K).2.bindings := by
  have hsettle : ∀ k, desired.settle t.name (K₁.hasNamespace k.ns) k (K₁.bindings.get? k) =
      desired.settle t.name (K.hasNamespace k.ns) k (K.bindings.get? k) := by
    intro k
    rw [Cluster.hasNamespace_of_eq hns, (halike k).settle]
  have htaken : ∀ k, K₁.taken t.name k = K.taken t.name k := by
    intro k
    rw [Cluster.taken, Cluster.taken, (halike k).foreign, Cluster.hasNamespace_of_eq hns]
  apply OrderedMap.ext_get?
  intro k
  -- Both passes get through, or both stop at the same key.
  rcases desired.free_or_first_taken t.name K with
    hfree | ⟨before, k₀, g₀, after, hentries, hfree, hk₀⟩
  · obtain ⟨_, K', hrun, -, hleft⟩ := pass_through hK hdesired hfree
    obtain ⟨_, K₁', hrun₁, -, hleft₁⟩ :=
      pass_through hK₁ hdesired fun e he => (htaken e.1).trans (hfree e he)
    rw [hrun, hrun₁, hleft, hleft₁, hsettle]
  · obtain ⟨K', hrun, -, hleft, hrest⟩ := pass_stopped hK hdesired hentries hfree hk₀
    obtain ⟨K₁', hrun₁, -, hleft₁, hrest₁⟩ := pass_stopped hK₁ hdesired hentries
      (fun e he => (htaken e.1).trans (hfree e he)) ((htaken k₀).trans hk₀)
    rw [hrun, hrun₁]
    by_cases hk : ∃ e ∈ before, e.1 = k
    · obtain ⟨e, he, rfl⟩ := hk
      exact (hleft₁ e he).trans ((hsettle e.1).trans (hleft e he).symm)
    · have hne : ∀ e ∈ before, e.1 ≠ k := fun e he heq => hk ⟨e, he, heq⟩
      exact (hrest₁ k hne).trans
        ((hbehind _ _ _ _ hentries hk₀ k hne).trans (hrest k hne).symm)

/-- **An interrupted pass can be resumed.**  Whatever calls of a pass fail, and
wherever it stops, an undisturbed pass after it leads to the bindings that an
undisturbed pass would have led to in the first place. -/
theorem resumed_eq_uninterrupted (hsafe : api.FailsSafely cluster) (hkeyed : (cluster s).Keyed)
    {x : Except Fault Summary} (h : t.syncBindings api s = (x, s')) :
    (t.syncBindings Cluster.api (cluster s')).2.bindings =
      (t.syncBindings Cluster.api (cluster s)).2.bindings := by
  cases hdesired : t.ownedDesired with
  | error c =>
      have hstill : s = s' := by
        rw [syncBindings, hdesired] at h
        exact congrArg Prod.snd h
      rw [hstill]
  | ok desired =>
      obtain ⟨first, rest, hsplit, hchain⟩ := done_of_syncBindings hsafe hdesired h
      have hns := Change.namespaces_of_done hchain
      have hkeyed' : (cluster s').Keyed :=
        hchain.keeps (P := Cluster.Keyed) (fun _ _ _ _ => Change.keyed_of_done) hkeyed
      have halike := alikeAll_of_chain hkeyed hdesired hsplit hchain
      refine bindings_eq_of_alike hdesired hkeyed hkeyed' hns halike ?_
      intro before k₀ g₀ after hentries htaken k hk
      refine Change.get?_of_done hchain fun c hc => ?_
      obtain ⟨e, he, habout⟩ :=
        about_before_taken hkeyed hdesired hentries htaken hsplit hchain c hc
      exact ⟨e.1, habout, (hk e he).symm⟩

/-- What comes of a pass that has taken away a binding with another role and does
not get to make it anew. -/
def interruptedPlatform : Except Fault Summary × Nat × Cluster :=
  platform.syncBindings (Cluster.flaky (Cluster.hiccup 2)) (0, driftedCluster)

theorem resumed_eq_uninterrupted_platform :
    interruptedPlatform.1 = .error (.internal "server" "out of order") ∧
      interruptedPlatform.2.2.bindings.get? ⟨"api-ns", "foldertree-platform-admin"⟩ = none ∧
      (platform.syncBindings Cluster.api interruptedPlatform.2.2).2.bindings =
        (platform.syncBindings Cluster.api driftedCluster).2.bindings := by
  have hkeyed : driftedCluster.Keyed := Cluster.keyed_of_bindings driftedPlatform rfl
  have hresumed := resumed_eq_uninterrupted (t := platform) (s := (0, driftedCluster))
    (Cluster.flaky_failsSafely (Cluster.hiccup 2)) hkeyed rfl
  exact ⟨rfl, rfl, hresumed⟩

end FolderTree

end FolderGrants
