import FolderGrants.Proofs.PassInvariants
import FolderGrants.Proofs.PassOutcome

/-!
# Which drift is repaired

Others may delete the bindings of a tree, or give them other subjects, another
role or other labels.  An undisturbed pass finds a binding by the label of its
tree, so all of this is repaired, from whatever cluster, as long as that label
is left or the binding is gone.  A binding that has lost the label takes the key
it stands at: every pass tries to create what is missing there, is told that it
exists already, and gives up.

* `FolderTree.converged_of_settle` — where every key is settled the cluster holds
  what the tree requires;
* `FolderTree.reconcile_run` — to record how a pass went leaves the bindings alone;
* `FolderTree.repaired_unless_taken` — what a pass makes of any drift.
-/

namespace FolderGrants

/-- Where the namespace exists, a required key is settled to what serves it. -/
theorem Grant.exists_settle (g : Grant) (o : Option Binding) :
    ∃ b, g.settle true o = some b ∧ b.Serves g.binding := by
  cases o with
  | none => exact ⟨g.binding, rfl, .refl _⟩
  | some b =>
      by_cases hrole : b.roleRef ≠ g.binding.roleRef
      · rw [settle, if_pos hrole, if_pos rfl]
        exact ⟨g.binding, rfl, .refl _⟩
      · rw [settle, if_neg hrole]
        by_cases hrefresh : b.needsRefresh g.binding = true
        · rw [if_pos hrefresh]
          exact ⟨_, rfl, Binding.refreshed_serves _ _⟩
        · rw [if_neg hrefresh]
          have hserves := Binding.needsRefresh_eq_false_iff.1 (Bool.eq_false_iff.2 hrefresh)
          exact ⟨b, rfl, hserves⟩

namespace FolderTree

variable {t : FolderTree} {desired : DesiredSet} {K K' : Cluster}

/-- Where every key is settled and no required key was taken, the cluster holds
what the tree requires and nothing else of it. -/
theorem converged_of_settle (hdesired : t.ownedDesired = .ok desired)
    (hfree : ∀ e ∈ desired.entries, K.taken t.name e.1 = false)
    (hns : K'.namespaces = K.namespaces)
    (hleft : ∀ k, K'.bindings.get? k =
      desired.settle t.name (K.hasNamespace k.ns) k (K.bindings.get? k)) :
    t.Converged desired K' := by
  constructor
  · intro k g hg hexists
    have hfound : K.hasNamespace k.ns = true :=
      (Cluster.hasNamespace_of_eq hns k.ns).symm.trans hexists
    have hown : foreign t.name (K.bindings.get? k) = false := by
      have htaken := hfree (k, g) (OrderedMap.mem_entries_iff.2 hg)
      simpa [Cluster.taken, hfound] using htaken
    obtain ⟨b, hb, hserves⟩ := g.exists_settle (K.bindings.get? k)
    have hstands : K'.bindings.get? k = some b := by
      rw [hleft, DesiredSet.settle_of_required hg hown, hfound, hb]
    exact ⟨b, hstands, hserves.roleRef, hserves.length, hserves.subjects,
      tracking_of_serves hdesired hg hserves⟩
  · intro k b hb htree
    rw [hleft] at hb
    cases hforeign : foreign t.name (K.bindings.get? k) with
    | true =>
        rw [DesiredSet.settle_of_foreign hforeign] at hb
        rw [hb, foreign_some_eq_false_iff.2 htree] at hforeign
        cases hforeign
    | false =>
        cases hk : desired.get? k with
        | some g => exact ⟨g, rfl⟩
        | none =>
            rw [DesiredSet.settle_of_not_required hk hforeign] at hb
            cases hb

/-- An undisturbed pass ends as its changes do; what is recorded afterwards leaves
bindings and namespaces alone. -/
theorem reconcile_run (hlive : t.metadata.deletionTimestamp = none) (now : Instant)
    (K : Cluster) :
    (t.reconcile Cluster.api now K).1 =
        (t.syncBindings Cluster.api K).1.map (fun _ => Followup.awaitChange) ∧
      (t.reconcile Cluster.api now K).2.bindings = (t.syncBindings Cluster.api K).2.bindings ∧
      (t.reconcile Cluster.api now K).2.namespaces =
        (t.syncBindings Cluster.api K).2.namespaces := by
  have hrecord : ∀ c replaced K₁, ∃ K₂,
      t.recordCondition Cluster.api c replaced K₁ = (.ok (), K₂) ∧
        K₂.bindings = K₁.bindings ∧ K₂.namespaces = K₁.namespaces := by
    intro c replaced K₁
    unfold recordCondition
    by_cases hsame : t.status = some (t.statusWith c replaced)
    · rw [if_pos hsame]
      exact ⟨K₁, rfl, rfl, rfl⟩
    · rw [if_neg hsame]
      exact ⟨_, rfl, Cluster.bindings_putStatus _ _ _, Cluster.namespaces_putStatus _ _ _⟩
  rcases hrun : t.syncBindings Cluster.api K with ⟨f | summary, K₁⟩
  · obtain ⟨K₂, hend, hbindings, hns⟩ :=
      hrecord (.ofFault now f) Condition.ready K₁
    rw [reconcile_of_error hlive now hrun hend]
    exact ⟨rfl, hbindings, hns⟩
  · obtain ⟨K₂, hend, hbindings, hns⟩ :=
      hrecord (.ofSuccess now) Condition.processingFailed K₁
    rw [reconcile_of_ok hlive now hrun hend]
    exact ⟨rfl, hbindings, hns⟩

/-- **Drift is repaired unless a key is taken.**  From any cluster, if no binding
without the label of the tree stands at a required key, an undisturbed pass
succeeds and leaves what the tree requires.  If one does, in a namespace that
exists, the pass fails because something exists already at such a key, and what
stands at these keys stays. -/
theorem repaired_unless_taken (hK : K.Keyed) (hdesired : t.ownedDesired = .ok desired)
    (hlive : t.metadata.deletionTimestamp = none) (now : Instant) :
    ((∀ k ∈ desired.keys, K.taken t.name k = false) →
      (t.reconcile Cluster.api now K).1 = .ok .awaitChange ∧
        t.Converged desired (t.reconcile Cluster.api now K).2) ∧
    ((∃ k ∈ desired.keys, K.taken t.name k = true) →
      (∃ k ∈ desired.keys, K.taken t.name k = true ∧
        (t.reconcile Cluster.api now K).1 = .error (.refused (.alreadyExists k.text))) ∧
      ∀ k, K.taken t.name k = true →
        (t.reconcile Cluster.api now K).2.bindings.get? k = K.bindings.get? k) := by
  obtain ⟨hresult, hbindings, hns⟩ := t.reconcile_run hlive now K
  have hkeys : ∀ {e}, e ∈ desired.entries → e.1 ∈ desired.keys := fun he =>
    List.mem_map_of_mem he
  constructor
  · intro hfree
    have hentries : ∀ e ∈ desired.entries, K.taken t.name e.1 = false := fun e he =>
      hfree e.1 (hkeys he)
    obtain ⟨summary, K', hrun, hns', hleft⟩ := pass_through hK hdesired hentries
    rw [hrun] at hresult hbindings hns
    refine ⟨hresult, converged_of_settle hdesired hentries (hns.trans hns') fun k => ?_⟩
    rw [hbindings, hleft]
  · intro htaken
    obtain ⟨k, hk, htaken⟩ := htaken
    rcases desired.free_or_first_taken t.name K with
      hfree | ⟨before, k₀, g₀, after, hentries, hfree, hk₀⟩
    · obtain ⟨g, hg⟩ := OrderedMap.mem_keys_iff.1 hk
      have hnot := hfree (k, g) (OrderedMap.mem_entries_iff.2 hg)
      exact absurd (hnot.symm.trans htaken) Bool.false_ne_true
    · obtain ⟨K', hrun, -, -, hrest⟩ := pass_stopped hK hdesired hentries hfree hk₀
      rw [hrun] at hresult hbindings
      have hmem : (k₀, g₀) ∈ desired.entries :=
        OrderedMap.mem_entries_iff.2 (OrderedMap.get?_of_entries hentries)
      refine ⟨⟨k₀, hkeys hmem, hk₀, hresult⟩, fun k' hk' => ?_⟩
      rw [hbindings]
      refine hrest k' fun e he heq => ?_
      rw [← heq, hfree e he] at hk'
      cases hk'

/-- The cluster of the platform after a pass. -/
def settledPlatform : Cluster := (platform.reconcile Cluster.api ⟨0, 0⟩ driftedCluster).2

theorem repaired_unless_taken_platform :
    (platform.reconcile Cluster.api ⟨0, 0⟩ driftedCluster).1 = .ok .awaitChange ∧
      ∃ desired, platform.ownedDesired = .ok desired ∧
        platform.Converged desired settledPlatform := by
  have hkeyed : driftedCluster.Keyed := Cluster.keyed_of_bindings driftedPlatform rfl
  obtain ⟨hok, hconverged⟩ :=
    (repaired_unless_taken (t := platform) hkeyed rfl rfl ⟨0, 0⟩).1 (by decide)
  exact ⟨hok, _, rfl, hconverged⟩

/-- A tree that lets one user edit in one namespace. -/
def outpost : FolderTree where
  metadata := { name := some "outpost", uid := some "uid-1" }
  spec :=
    { folders :=
        [{ name := "dev"
           templates := [⟨"edit", [.user "ada"], .clusterRole "edit", none⟩]
           namespaces := ["a"] }] }

/-- The one binding that it requires. -/
def outpostKey : BindingKey := ⟨"a", "foldertree-outpost-edit"⟩

/-- A first pass over it. -/
def firstPass : Except Fault Followup × Cluster :=
  outpost.reconcile Cluster.api ⟨0, 0⟩ { namespaces := .ofList [("a", ())] }

/-- Somebody takes the label of the tree off a binding. -/
def unlabelled (b : Binding) : Binding :=
  { b with metadata := { b.metadata with labels := some (b.labels.erase Binding.treeLabel) } }

/-- The next pass, after this has happened to the binding of the tree. -/
def nextPass : Except Fault Followup × Cluster :=
  match firstPass.2.bindings.get? outpostKey with
  | none => firstPass
  | some b => outpost.reconcile Cluster.api ⟨1, 0⟩ (firstPass.2.putBinding (unlabelled b))

/-- A binding whose label was taken off is not repaired. -/
theorem unlabelled_not_repaired :
    firstPass.1 = .ok .awaitChange ∧
      ∃ b, firstPass.2.bindings.get? outpostKey = some b ∧
        nextPass.1 = .error (.refused (.alreadyExists "a/foldertree-outpost-edit")) ∧
        nextPass.2.bindings.get? outpostKey = some (unlabelled b) ∧
        (unlabelled b).tree? = none :=
  ⟨rfl, _, rfl, rfl, rfl, rfl⟩

end FolderTree

end FolderGrants
