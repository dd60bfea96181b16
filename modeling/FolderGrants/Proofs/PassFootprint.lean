import FolderGrants.Proofs.PassOutcome
import FolderGrants.Proofs.RecordedCalls

/-!
# What a pass touches

A binding belongs to a tree if it carries the tree's label, and keys say nothing
about that: a required key may be held by a binding of another tree or by one that
somebody made by hand.  A pass minds this.  It lists what carries the label before
it changes anything, replaces and deletes at keys that it has listed, and creates
only where nothing stands.  So whatever calls fail, before they are carried out or
after, and wherever the pass stops:

* what did not carry the label stands as it stood, and what is new or other carries
  it (`Cluster.OwnChanged`);
* every call keeps to what carried the label when it was listed (`Call.KeepsTo`);
* `FolderTree.reconcile_confined` — both hold of every pass.
-/

namespace FolderGrants

section Servers

variable {σ ρ α : Type} {view : σ → ρ} {a : Action σ α} {ideal : Action ρ α}

/-- `a` gives what `ideal` gives and has been carried out, or it fails, before it is
carried out or after. -/
structure Action.MayFail (view : σ → ρ) (a : Action σ α) (ideal : Action ρ α) : Prop where
  ok : ∀ s y s', a s = (.ok y, s') → ideal (view s) = (.ok y, view s')
  error : ∀ s f s', a s = (.error f, s') → view s' = view s ∨ view s' = (ideal (view s)).2

/-- It has been carried out, or nothing has happened. -/
theorem Action.MayFail.view_run (h : a.MayFail view ideal) (s : σ) :
    view (a s).2 = view s ∨ view (a s).2 = (ideal (view s)).2 := by
  rcases hrun : a s with ⟨f | y, s'⟩
  · exact h.error s f s' hrun
  · have hideal := h.ok s y s' hrun
    exact .inr (by rw [hideal])

/-- What a call keeps where nothing fails it keeps where it may fail. -/
theorem Action.MayFail.keeps {P : ρ → Prop} (h : a.MayFail view ideal)
    (hideal : ∀ r, P r → P (ideal r).2) : a.Keeps fun s => P (view s) := by
  intro s hs
  rcases h.view_run s with hsame | hrun
  · exact hsame.symm ▸ hs
  · exact hrun.symm ▸ hideal _ hs

/-- What fails safely may fail. -/
theorem Action.Follows.mayFail (h : a.Follows view ideal) : a.MayFail view ideal where
  ok _ _ _ hrun := h.ok hrun
  error _ _ _ hrun := .inl (h.error hrun)

/-- Every call is that of a cluster, or fails, before it is carried out or after. -/
structure Api.MayFail (api : Api σ) (cluster : σ → Cluster) : Prop where
  list : ∀ tree, (api.list tree).MayFail cluster (Cluster.api.list tree)
  namespaceExists : ∀ ns,
    (api.namespaceExists ns).MayFail cluster (Cluster.api.namespaceExists ns)
  create : ∀ b, (api.create b).MayFail cluster (Cluster.api.create b)
  replace : ∀ b, (api.replace b).MayFail cluster (Cluster.api.replace b)
  delete : ∀ key, (api.delete key).MayFail cluster (Cluster.api.delete key)
  patchStatus : ∀ name status,
    (api.patchStatus name status).MayFail cluster (Cluster.api.patchStatus name status)

/-- What is said to be done has been done. -/
theorem Api.MayFail.truthful {api : Api σ} {cluster : σ → Cluster} (h : api.MayFail cluster) :
    api.Truthful cluster where
  list tree := (h.list tree).ok
  namespaceExists ns := (h.namespaceExists ns).ok
  create b := (h.create b).ok
  replace b := (h.replace b).ok
  delete key := (h.delete key).ok
  failed key s f s' hrun := by
    rcases (h.delete key).error s f s' hrun with hstill | hcarried
    · exact .inl hstill
    · rw [hcarried]
      exact (Cluster.delete_conditional BindingKey.text key).state_cases (cluster s)

/-- Whatever the pattern of failures, a cluster does no more than that. -/
theorem Cluster.flaky_mayFail (fails : Nat → Call → Option Fault) :
    (flaky fails).MayFail Prod.snd where
  list tree := ((flaky_failsSafely fails).list tree).mayFail
  namespaceExists ns := ((flaky_failsSafely fails).namespaceExists ns).mayFail
  create b := ((flaky_failsSafely fails).create b).mayFail
  replace b := ((flaky_failsSafely fails).replace b).mayFail
  delete key := ((flaky_failsSafely fails).delete key).mayFail
  patchStatus _ _ := (attempt_follows fun _ _ _ h => by simp [api] at h).mayFail

/-- Where nothing fails, nothing more is done than that. -/
theorem Action.mayFail_self (a : Action σ α) : a.MayFail id a where
  ok _ _ _ hrun := hrun
  error _ _ _ hrun := .inr (by rw [id, id, hrun])

/-- A cluster that never fails does no more than what it is asked. -/
theorem Cluster.api_mayFail : Cluster.api.MayFail id where
  list _ := Action.mayFail_self _
  namespaceExists _ := Action.mayFail_self _
  create _ := Action.mayFail_self _
  replace _ := Action.mayFail_self _
  delete _ := Action.mayFail_self _
  patchStatus _ _ := Action.mayFail_self _

/-- A call that is recorded, and may be made to fail, does no more than it did. -/
theorem Action.MayFail.scripted (h : a.MayFail view ideal) (c : Call) :
    (Scripted.perform c a).MayFail (fun s => view s.world) ideal where
  ok s y s' hrun := h.ok s.world y s'.world (Scripted.run_of_perform_eq_ok hrun)
  error s f s' hrun := by
    have hworld := Scripted.world_perform c a s
    rw [hrun] at hworld
    rcases hworld with hsame | hcarried
    · exact .inl (congrArg view hsame)
    · have hview := h.view_run s.world
      rw [← hcarried] at hview
      exact hview

/-- A server that may fail does no more behind a script. -/
theorem Api.MayFail.scripted {api : Api σ} {cluster : σ → Cluster} (h : api.MayFail cluster) :
    (Scripted.api api).MayFail fun s => cluster s.world where
  list tree := (h.list tree).scripted _
  namespaceExists ns := (h.namespaceExists ns).scripted _
  create b := (h.create b).scripted _
  replace b := (h.replace b).scripted _
  delete key := (h.delete key).scripted _
  patchStatus name status := (h.patchStatus name status).scripted _

end Servers

/-- The labels say that the binding was made for the tree, by this manager. -/
structure Binding.MarkedFor (b : Binding) (tree : String) : Prop where
  tree : b.tree? = some tree
  manager : b.labels.get? Binding.managedByLabel = some Binding.manager

namespace Cluster

/-- `K'` differs from `K` in bindings of the tree alone: what lacks its label stays,
and what is new or other carries it. -/
structure OwnChanged (K : Cluster) (tree : String) (K' : Cluster) : Prop where
  others : ∀ k b, K.bindings.get? k = some b → b.tree? ≠ some tree →
    K'.bindings.get? k = some b
  own : ∀ k b, K'.bindings.get? k = some b →
    K.bindings.get? k = some b ∨ b.key = k ∧ b.MarkedFor tree

variable {K K' : Cluster} {tree : String} {b : Binding} {key : BindingKey}

theorem OwnChanged.refl (K : Cluster) (tree : String) : K.OwnChanged tree K :=
  ⟨fun _ _ hb _ => hb, fun _ _ hb => .inl hb⟩

/-- A marked binding is put where nothing of others stood. -/
theorem OwnChanged.putBinding (h : K.OwnChanged tree K') (hb : b.MarkedFor tree)
    (hown : ∀ b₀, K.bindings.get? b.key = some b₀ → b₀.tree? = some tree) :
    K.OwnChanged tree (K'.putBinding b) := by
  constructor
  · intro k b₀ hb₀ hother
    have hne : k ≠ b.key := by
      intro heq
      exact hother (hown b₀ (heq ▸ hb₀))
    rw [get?_putBinding_of_ne K' hne]
    exact h.others k b₀ hb₀ hother
  · intro k b₁ hb₁
    by_cases hk : k = b.key
    · subst hk
      rw [get?_putBinding_self] at hb₁
      obtain rfl := Option.some.inj hb₁
      exact .inr ⟨rfl, hb⟩
    · rw [get?_putBinding_of_ne K' hk] at hb₁
      exact h.own k b₁ hb₁

/-- To remove is safe where nothing of another tree stood. -/
theorem OwnChanged.removeBinding (h : K.OwnChanged tree K')
    (hown : ∀ b₀, K.bindings.get? key = some b₀ → b₀.tree? = some tree) :
    K.OwnChanged tree (K'.removeBinding key) := by
  constructor
  · intro k b₀ hb₀ hother
    have hne : k ≠ key := by
      intro heq
      exact hother (hown b₀ (heq ▸ hb₀))
    rw [get?_removeBinding_of_ne K' hne]
    exact h.others k b₀ hb₀ hother
  · intro k b₁ hb₁
    by_cases hk : k = key
    · subst hk
      rw [get?_removeBinding_self] at hb₁
      cases hb₁
    · rw [get?_removeBinding_of_ne K' hk] at hb₁
      exact h.own k b₁ hb₁

/-- To create is always safe, as nothing is created where something stands. -/
theorem OwnChanged.create (h : K.OwnChanged tree K') (hb : b.MarkedFor tree)
    (title : BindingKey → String) : K.OwnChanged tree (create title b K').2 := by
  refine (create_conditional title b).keeps_at h fun habsent => h.putBinding hb fun b₀ hb₀ => ?_
  by_cases htree : b₀.tree? = some tree
  · exact htree
  · have hstands := h.others _ b₀ hb₀ htree
    rw [habsent] at hstands
    cases hstands

/-- To replace is safe where nothing of another tree stood. -/
theorem OwnChanged.replace (h : K.OwnChanged tree K') (hb : b.MarkedFor tree)
    (hown : ∀ b₀, K.bindings.get? b.key = some b₀ → b₀.tree? = some tree)
    (title : BindingKey → String) : K.OwnChanged tree (replace title b K').2 :=
  (replace_conditional title b).keeps_at h fun _ => h.putBinding hb hown

/-- So is to delete. -/
theorem OwnChanged.delete (h : K.OwnChanged tree K')
    (hown : ∀ b₀, K.bindings.get? key = some b₀ → b₀.tree? = some tree)
    (title : BindingKey → String) : K.OwnChanged tree (delete title key K').2 :=
  (delete_conditional title key).keeps_at h fun _ => h.removeBinding hown

/-- A status touches no binding. -/
theorem OwnChanged.putStatus (h : K.OwnChanged tree K') (name : String) (status : Status) :
    K.OwnChanged tree (K'.putStatus name status) := by
  obtain ⟨hothers, hown⟩ := h
  constructor <;> rwa [bindings_putStatus]

/-- Where something listed has its key, nothing of others stands. -/
theorem Keyed.tree?_of_listed (hK : K.Keyed) {b₀ b₁ : Binding} (hlisted : b₀ ∈ K.bindingsOf tree)
    (hstands : K.bindings.get? b₀.key = some b₁) : b₁.tree? = some tree := by
  obtain ⟨⟨k, hk⟩, htree⟩ := mem_bindingsOf_iff.1 hlisted
  rw [hK k b₀ hk, hk] at hstands
  obtain rfl := Option.some.inj hstands
  exact htree

end Cluster

/-- A call that keeps to the bindings of `K` that carry the label of the tree: it
changes or deletes one of them, under the name and in the namespace that this one
has, or creates one; and what it sends carries the label. -/
inductive Call.KeepsTo (K : Cluster) (tree : String) : Call → Prop
  | list : KeepsTo K tree (.list tree)
  | namespaceExists (ns : String) : KeepsTo K tree (.namespaceExists ns)
  | create {b : Binding} (hb : b.MarkedFor tree) : KeepsTo K tree (.create b)
  | replace {b₀ b : Binding} (hlisted : b₀ ∈ K.bindingsOf tree) (hkey : b.key = b₀.key)
      (hmetadata : b.metadata = { b₀.metadata with labels := b.metadata.labels })
      (hb : b.MarkedFor tree) : KeepsTo K tree (.replace b)
  | delete {b₀ : Binding} (hlisted : b₀ ∈ K.bindingsOf tree) : KeepsTo K tree (.delete b₀.key)
  | patchStatus (status : Status) : KeepsTo K tree (.patchStatus tree status)

namespace FolderTree

variable {ω α : Type} {api : Api ω} {cluster : ω → Cluster} {t : FolderTree} {K : Cluster}
  {log : List CallRecord} {desired : DesiredSet} {c : Change} {b : Binding}

/-- What has come of a pass that found the cluster `K` and the record `log`. -/
structure Confined (t : FolderTree) (cluster : ω → Cluster) (K : Cluster)
    (log : List CallRecord) (s : Scripted ω) : Prop where
  changed : K.OwnChanged t.name (cluster s.world)
  calls : ∃ calls, s.log = calls ++ log ∧ ∀ r ∈ calls, r.call.KeepsTo K t.name

/-- A call that keeps to the tree, and changes no more than that, keeps a pass
confined. -/
theorem keeps_confined_perform {call : Call} {a : Action ω α} {ideal : Action Cluster α}
    (ha : a.MayFail cluster ideal) (hcall : call.KeepsTo K t.name)
    (hideal : ∀ K', K.OwnChanged t.name K' → K.OwnChanged t.name (ideal K').2) :
    (Scripted.perform call a).Keeps (t.Confined cluster K log) := by
  intro s hs
  constructor
  · rcases Scripted.world_perform call a s with hworld | hworld
    · rw [hworld]
      exact hs.changed
    · rw [hworld]
      rcases ha.view_run s.world with hview | hview
      · rw [hview]
        exact hs.changed
      · rw [hview]
        exact hideal _ hs.changed
  · obtain ⟨calls, hlog, hcalls⟩ := hs.calls
    obtain ⟨fault, hnext⟩ := Scripted.log_perform call a s
    refine ⟨⟨call, fault⟩ :: calls, by rw [hnext, hlog, List.cons_append], fun r hr => ?_⟩
    rcases List.mem_cons.1 hr with rfl | hr
    · exact hcall
    · exact hcalls r hr

/-- A binding that serves a required one is marked for the tree. -/
theorem markedFor_of_serves (hdesired : t.ownedDesired = .ok desired) {k : BindingKey} {g : Grant}
    (hg : desired.get? k = some g) (hserves : b.Serves g.binding) : b.MarkedFor t.name := by
  obtain ⟨hmanager, htree, -⟩ := tracking_of_serves hdesired hg hserves
  exact ⟨htree, hmanager⟩

/-- Each change that is due keeps to what was listed. -/
theorem keeps_confined_apply (hapi : api.MayFail cluster) (hK : K.Keyed)
    (hdesired : t.ownedDesired = .ok desired)
    (hc : c ∈ desired.changesFrom (.ofBindings (K.bindingsOf t.name))) :
    (c.apply (Scripted.api api)).Keeps (t.Confined cluster K log) := by
  have hask : ∀ ns, ((Scripted.api api).namespaceExists ns).Keeps (t.Confined cluster K log) :=
    fun ns => keeps_confined_perform (hapi.namespaceExists ns) (.namespaceExists ns) fun _ h => h
  cases DesiredSet.mem_changesFrom_iff_due.1 hc with
  | @creation k g hg _ =>
      have hmarked : g.binding.MarkedFor t.name := markedFor_of_serves hdesired hg (.refl _)
      refine Change.keeps_apply hask (fun b _ hb => ?_) (fun _ hkind => by cases hkind)
        fun hkind => by cases hkind
      obtain rfl := Option.some.inj hb
      exact keeps_confined_perform (hapi.create _) (.create hmarked) fun _ h => h.create hmarked _
  | @renewal k g held hg hheld _ _ =>
      obtain ⟨hlisted, -⟩ := Baseline.mem_of_get?_ofBindings hheld
      have hmarked : (held.binding.refreshed g.binding).MarkedFor t.name :=
        markedFor_of_serves hdesired hg (Binding.refreshed_serves _ _)
      have hown : ∀ b₁, K.bindings.get? held.binding.key = some b₁ → b₁.tree? = some t.name :=
        fun _ => hK.tree?_of_listed hlisted
      refine Change.keeps_apply hask (fun _ hkind => by cases hkind) (fun b _ hb => ?_)
        fun hkind => by cases hkind
      obtain rfl := Option.some.inj hb
      exact keeps_confined_perform (hapi.replace _) (.replace hlisted rfl rfl hmarked) fun _ h =>
        h.replace hmarked hown _
  | @removal k held hheld _ =>
      obtain ⟨hlisted, hkey⟩ := Baseline.mem_of_get?_ofBindings hheld
      refine Change.keeps_apply hask (fun _ hkind => by cases hkind) (fun _ hkind => by cases hkind)
        fun _ => ?_
      have habout : (Change.removal k held).key = held.binding.key :=
        (Change.removal_about hkey).key.trans hkey.symm
      have hown : ∀ b₁, K.bindings.get? held.binding.key = some b₁ → b₁.tree? = some t.name :=
        fun _ => hK.tree?_of_listed hlisted
      show ((Scripted.api api).delete (Change.removal k held).key).Keeps _
      rw [habout]
      exact keeps_confined_perform (hapi.delete _) (.delete hlisted) fun _ h => h.delete hown _

/-- **A pass touches only its own bindings.**  From any cluster and whatever calls
fail, before they are carried out or after, a pass leaves every binding without the
label of its tree as it was, and what it leaves new or other carries the label.  Of
its calls, those that replace or delete address what carried the label when it was
listed, and those that create or replace send what carries it. -/
theorem reconcile_confined (hapi : api.MayFail cluster) (t : FolderTree) (now : Instant)
    (s : Scripted ω) (hkeyed : (cluster s.world).Keyed) :
    t.Confined cluster (cluster s.world) s.log (t.reconcile (Scripted.api api) now s).2 := by
  have hstart : t.Confined cluster (cluster s.world) s.log s :=
    ⟨.refl _ _, [], rfl, fun _ hr => by cases hr⟩
  have hlist : ((Scripted.api api).list t.name).Keeps
      (t.Confined cluster (cluster s.world) s.log) :=
    keeps_confined_perform (hapi.list t.name) .list fun _ h => h
  have hpatch : ∀ status, ((Scripted.api api).patchStatus t.name status).Keeps
      (t.Confined cluster (cluster s.world) s.log) := fun status =>
    keeps_confined_perform (hapi.patchStatus t.name status) (.patchStatus status) fun _ h =>
      h.putStatus t.name status
  have hsync : t.Confined cluster (cluster s.world) s.log
      (t.syncBindings (Scripted.api api) s).2 := by
    refine syncBindings_ends hstart (fun _ _ hrun => hlist.run hrun hstart) ?_
    intro desired live mid hdesired hrun c hc
    have hcarried := (hapi.list t.name).ok _ _ _ (Scripted.run_of_perform_eq_ok hrun)
    obtain ⟨hlive, -⟩ := Action.outcome_eq_iff.1 hcarried
    obtain rfl := Except.ok.inj hlive
    exact keeps_confined_apply hapi hkeyed hdesired hc
  exact reconcile_ends hstart hsync hpatch now

/-- To record how a pass went leaves bindings and namespaces alone. -/
theorem keeps_bindings_recordCondition (hapi : api.MayFail cluster) (K : Cluster) (c : Condition)
    (replaced : String) :
    (t.recordCondition api c replaced).Keeps fun s =>
      (cluster s).bindings = K.bindings ∧ (cluster s).namespaces = K.namespaces := by
  refine keeps_recordCondition (fun status => ?_) c replaced
  refine (hapi.patchStatus t.name status).keeps
    (P := fun K' => K'.bindings = K.bindings ∧ K'.namespaces = K.namespaces) fun K' hK' => ?_
  exact ⟨(K'.bindings_putStatus t.name status).trans hK'.1,
    (K'.namespaces_putStatus t.name status).trans hK'.2⟩

/-- A pass that succeeds has made its changes, and leaves the bindings as these do. -/
theorem exists_synced_of_reconcile (hapi : api.MayFail cluster)
    (hlive : t.metadata.deletionTimestamp = none) {now : Instant} {s s' : ω} {next : Followup}
    (h : t.reconcile api now s = (.ok next, s')) :
    ∃ summary mid, t.syncBindings api s = (.ok summary, mid) ∧
      (cluster s').bindings = (cluster mid).bindings := by
  rcases hsync : t.syncBindings api s with ⟨f | summary, mid⟩
  · rcases hrecord : t.recordCondition api (.ofFault now f) Condition.ready mid with ⟨x, s''⟩
    rw [reconcile_of_error hlive now hsync hrecord] at h
    cases congrArg Prod.fst h
  · rcases hrecord : t.recordCondition api (.ofSuccess now) Condition.processingFailed mid with
      ⟨x, s''⟩
    rw [reconcile_of_ok hlive now hsync hrecord] at h
    obtain ⟨-, rfl⟩ := Action.outcome_eq_iff.1 h
    have hleft := (keeps_bindings_recordCondition hapi (cluster mid) (.ofSuccess now)
      Condition.processingFailed).run hrecord ⟨rfl, rfl⟩
    exact ⟨summary, mid, rfl, hleft.1⟩

/-- A binding that somebody made by hand at a key that the platform requires. -/
def handmade : Binding where
  metadata := { name := some "foldertree-platform-admin", ns := some "org-ns" }
  roleRef := .clusterRole "view"

/-- The drifted cluster with this binding. -/
def contestedCluster : Cluster := driftedCluster.putBinding handmade

/-- What comes of a pass over it, in which the status cannot be written. -/
def contestedPass : Except Fault Followup × Scripted (Nat × Cluster) :=
  platform.reconcile (Scripted.api (Cluster.flaky (Cluster.hiccup 6))) ⟨0, 0⟩
    ⟨(0, contestedCluster), [], []⟩

theorem reconcile_confined_contested :
    contestedPass.1 =
        .error (.refused (.alreadyExists "org-ns/foldertree-platform-admin")) ∧
      platform.Confined Prod.snd contestedCluster [] contestedPass.2 ∧
      contestedPass.2.world.2.bindings.get? ⟨"org-ns", "foldertree-platform-admin"⟩ =
        some handmade := by
  have hkeyed : contestedCluster.Keyed :=
    (Cluster.keyed_of_bindings driftedPlatform rfl).setTo (Cluster.setTo_putBinding _ rfl)
      fun _ hb => Option.some.inj hb ▸ rfl
  have hconfined : platform.Confined Prod.snd contestedCluster [] contestedPass.2 :=
    reconcile_confined (Cluster.flaky_mayFail (Cluster.hiccup 6)) platform ⟨0, 0⟩
      ⟨(0, contestedCluster), [], []⟩ hkeyed
  refine ⟨rfl, hconfined, hconfined.changed.others _ handmade rfl ?_⟩
  decide

end FolderTree

end FolderGrants
