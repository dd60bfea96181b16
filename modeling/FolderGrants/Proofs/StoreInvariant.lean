import FolderGrants.Cluster.Session
import FolderGrants.Proofs.PassFootprint

/-!
# Where stored bindings come from

A binding says twice what it was made for: in its name and in its labels.  Nothing
compares the two, and a pass relies on both, so they have to agree in every binding
that is stored.  They do as long as bindings are made by passes alone: a creation
writes what the tree requires, a renewal writes it over what stands at the same key,
and all of it comes from a template of the version that is stored.  Passes may fail
anywhere, and trees may share namespaces and even names of bindings.

* `Binding.MadeFrom` — a binding is what a template of a version gives;
* `Chronicle.Step` — what can happen to a cluster in which nobody makes bindings by
  hand, and `Chronicle.Reachable.session` for the events of a session;
* `Cluster.TreesFrom` — what stored trees have in common with versions that were applied;
* `Cluster.Sound` — the invariant, and `Chronicle.Step.sound`, which keeps it;
* `Chronicle.stored_from_template` — every stored binding comes from a template of a
  version that was applied.
-/

namespace FolderGrants

/-- `b` is what the template `m` of the version `v` gives, by its labels, by its name,
and in what it grants. -/
structure Binding.MadeFrom (b : Binding) (v : FolderTree) (m : Template) : Prop where
  folder : ∃ f ∈ v.spec.folders, m ∈ f.templates
  manager : b.labels.get? Binding.managedByLabel = some Binding.manager
  tree : b.tree? = some v.name
  template : b.template? = some m.name
  name : b.name = Binding.nameFor v.name m.name
  roleRef : b.roleRef = m.roleRef
  subjects : b.subjects = some m.subjects

/-- What a folder emits is a template of its own or of a folder above. -/
theorem Spec.Emits.exists_folder {s : Spec} {f : Folder} {m : Template} {ns : String}
    (h : s.Emits f m ns) : ∃ f ∈ s.folders, m ∈ f.templates := by
  cases h with
  | placed _ _ hfolder htemplate _ =>
      rcases htemplate with hown | ⟨_, _, g, hg, hm, -⟩
      · exact ⟨f, (folder?_eq_some hfolder).1, hown⟩
      · exact ⟨g, (folder?_eq_some hg).1, hm⟩
  | standalone hfolder _ hm _ => exact ⟨f, hfolder, hm⟩

namespace FolderTree

variable {t v : FolderTree} {desired : DesiredSet} {k : BindingKey} {g : Grant}

/-- What a tree requires is made from one of its templates. -/
theorem madeFrom_of_required (hdesired : t.ownedDesired = .ok desired)
    (hg : desired.get? k = some g) : g.binding.MadeFrom t g.template := by
  obtain ⟨e, he, -, rfl⟩ := (desired_eq_ok_iff.1 hdesired).exists_emission hg
  obtain ⟨f, hemits, -⟩ := Spec.mem_emissions_iff.1 he
  obtain ⟨hmanager, htree, htemplate⟩ := tracking_of_serves hdesired hg (.refl _)
  exact ⟨hemits.exists_folder, hmanager, htree, htemplate, rfl, rfl, rfl⟩

/-- So is what stood at the same key, once it is refreshed. -/
theorem madeFrom_of_refreshed (hdesired : t.ownedDesired = .ok desired)
    (hg : desired.get? k = some g) {existing : Binding} (hkey : existing.key = k) :
    (existing.refreshed g.binding).MadeFrom t g.template := by
  have hmade := madeFrom_of_required hdesired hg
  obtain ⟨hmanager, htree, htemplate⟩ :=
    tracking_of_serves hdesired hg (Binding.refreshed_serves existing g.binding)
  have hname : existing.name = g.binding.name := by
    have hkeys := hkey.trans (desired_keyed hdesired k g hg).symm
    exact congrArg BindingKey.name hkeys
  exact ⟨hmade.folder, hmanager, htree, htemplate, hname.trans hmade.name, hmade.roleRef,
    hmade.subjects⟩

theorem Restates.trans {t₁ t₂ t₃ : FolderTree} (h : t₁.Restates t₂) (h' : t₂.Restates t₃) :
    t₁.Restates t₃ := ⟨h.1.trans h'.1, h.2.trans h'.2⟩

theorem restates_withStatus (t : FolderTree) (status : Option Status) :
    ({ t with status } : FolderTree).Restates t := ⟨rfl, rfl⟩

/-- A version that is stored with another status gives the same. -/
theorem Restates.madeFrom {b : Binding} {m : Template} (h : t.Restates v)
    (hb : b.MadeFrom t m) : b.MadeFrom v m := by
  obtain ⟨hname, hspec⟩ := h
  exact ⟨hspec ▸ hb.folder, hb.manager, hname ▸ hb.tree, hb.template, hname ▸ hb.name, hb.roleRef,
    hb.subjects⟩

end FolderTree

/-- Some version that was applied has a template that gives `b`. -/
def Binding.Founded (applied : List FolderTree) (b : Binding) : Prop :=
  ∃ v ∈ applied, ∃ m, b.MadeFrom v m

namespace Cluster

/-- Every tree that is stored comes, by `R`, from a version that was applied. -/
def TreesFrom (R : FolderTree → FolderTree → Prop) (applied : List FolderTree) (K : Cluster) :
    Prop :=
  ∀ name t, K.trees.get? name = some t → ∃ v ∈ applied, R t v

namespace TreesFrom

variable {R : FolderTree → FolderTree → Prop} {applied : List FolderTree} {K : Cluster}
  {t v : FolderTree}

/-- Another version has been applied. -/
theorem mono (h : K.TreesFrom R applied) (v : FolderTree) : K.TreesFrom R (v :: applied) := by
  intro name t ht
  obtain ⟨v', hv', hfrom⟩ := h name t ht
  exact ⟨v', List.mem_cons_of_mem _ hv', hfrom⟩

/-- A tree is stored that comes from a version that was applied. -/
theorem insert (h : K.TreesFrom R applied) (hv : v ∈ applied) (ht : R t v) (name : String) :
    ({ K with trees := K.trees.insert name t } : Cluster).TreesFrom R applied := by
  intro name' t' ht'
  by_cases hname : name' = name
  · subst hname
    rw [OrderedMap.get?_insert_self] at ht'
    exact ⟨v, hv, Option.some.inj ht' ▸ ht⟩
  · rw [OrderedMap.get?_insert_of_ne _ _ hname] at ht'
    exact h name' t' ht'

/-- To remove a tree leaves only trees that were there. -/
theorem erase (h : K.TreesFrom R applied) (name : String) :
    ({ K with trees := K.trees.erase name } : Cluster).TreesFrom R applied := by
  intro name' t' ht'
  by_cases hname : name' = name
  · rw [hname, OrderedMap.get?_erase_self] at ht'
    cases ht'
  · rw [OrderedMap.get?_erase_of_ne _ hname] at ht'
    exact h name' t' ht'

/-- A tree with another status comes from the same version. -/
theorem putStatus (h : K.TreesFrom R applied)
    (hstatus : ∀ t v status, R t v → R { t with status } v) (name : String) (status : Status) :
    (K.putStatus name status).TreesFrom R applied := by
  unfold Cluster.putStatus
  cases htree : K.trees.get? name with
  | none => exact h
  | some t =>
      obtain ⟨v, hv, hfrom⟩ := h name t htree
      exact h.insert hv (hstatus t v (some status) hfrom) name

end TreesFrom

/-- What is left when a namespace goes was there before, and elsewhere. -/
theorem of_get?_removeNamespace {K : Cluster} {ns : String} {k : BindingKey} {b : Binding}
    (h : (K.removeNamespace ns).bindings.get? k = some b) :
    K.bindings.get? k = some b ∧ k.ns ≠ ns := by
  have hfilter : (K.bindings.filter fun k _ => k.ns != ns).get? k = some b := h
  rw [OrderedMap.get?_filter, Option.filter_eq_some_iff] at hfilter
  exact ⟨hfilter.1, by simpa using hfilter.2⟩

/-- Every binding stands at its own key, in a namespace that exists, and is founded on a
version that was applied; so is every tree that is stored. -/
structure Sound (applied : List FolderTree) (K : Cluster) : Prop where
  keyed : K.Keyed
  hasNamespace : ∀ k b, K.bindings.get? k = some b → K.hasNamespace k.ns = true
  founded : ∀ k b, K.bindings.get? k = some b → b.Founded applied
  trees : ∀ name t, K.trees.get? name = some t → ∃ v ∈ applied, t.Restates v

variable {applied : List FolderTree} {K : Cluster} {b : Binding} {t : FolderTree}
  {title : BindingKey → String} {key : BindingKey}

namespace Sound

/-- Nothing is stored but namespaces. -/
theorem start (namespaces : OrderedMap String Unit) :
    ({ namespaces } : Cluster).Sound applied where
  keyed _ _ hb := by cases hb
  hasNamespace _ _ hb := by cases hb
  founded _ _ hb := by cases hb
  trees _ _ ht := by cases ht

/-- To store a founded binding in a namespace that exists keeps the invariant. -/
theorem putBinding (h : K.Sound applied) (hns : K.hasNamespace b.key.ns = true)
    (hb : b.Founded applied) : (K.putBinding b).Sound applied := by
  have hnew : ∀ k b', (K.putBinding b).bindings.get? k = some b' →
      k = b.key ∧ b' = b ∨ K.bindings.get? k = some b' := by
    intro k b' hb'
    by_cases hk : k = b.key
    · subst hk
      rw [get?_putBinding_self] at hb'
      exact .inl ⟨rfl, (Option.some.inj hb').symm⟩
    · rw [get?_putBinding_of_ne K hk] at hb'
      exact .inr hb'
  refine ⟨fun k b' hb' => ?_, fun k b' hb' => ?_, fun k b' hb' => ?_, h.trees⟩
  · rcases hnew k b' hb' with ⟨rfl, rfl⟩ | hold
    · rfl
    · exact h.keyed k b' hold
  · rcases hnew k b' hb' with ⟨rfl, rfl⟩ | hold
    · exact hns
    · exact h.hasNamespace k b' hold
  · rcases hnew k b' hb' with ⟨rfl, rfl⟩ | hold
    · exact hb
    · exact h.founded k b' hold

/-- Bindings and namespaces may go as long as no binding loses its namespace. -/
theorem shrink {K' : Cluster} (h : K.Sound applied)
    (hold : ∀ k b, K'.bindings.get? k = some b → K.bindings.get? k = some b)
    (hns : ∀ k b, K'.bindings.get? k = some b → K.hasNamespace k.ns = true →
      K'.hasNamespace k.ns = true) (htrees : K'.trees = K.trees) : K'.Sound applied where
  keyed k b hb := h.keyed k b (hold k b hb)
  hasNamespace k b hb := hns k b hb (h.hasNamespace k b (hold k b hb))
  founded k b hb := h.founded k b (hold k b hb)
  trees := htrees ▸ h.trees

/-- To remove a binding keeps the invariant. -/
theorem removeBinding (h : K.Sound applied) (key : BindingKey) :
    (K.removeBinding key).Sound applied := by
  refine h.shrink (fun k b hb => ?_) (fun _ _ _ hns => hns) rfl
  by_cases hk : k = key
  · rw [hk, get?_removeBinding_self] at hb
    cases hb
  · rwa [get?_removeBinding_of_ne K hk] at hb

/-- So does to add a namespace. -/
theorem addNamespace (h : K.Sound applied) (ns : String) : (K.addNamespace ns).Sound applied := by
  refine h.shrink (fun _ _ hb => hb) (fun k _ _ hns => ?_) rfl
  obtain ⟨u, hu⟩ := OrderedMap.contains_iff.1 hns
  refine OrderedMap.contains_iff.2 ?_
  by_cases hk : k.ns = ns
  · exact ⟨(), hk ▸ OrderedMap.get?_insert_self _ _ _⟩
  · exact ⟨u, (OrderedMap.get?_insert_of_ne _ _ hk).trans hu⟩

/-- The bindings of a namespace go with it. -/
theorem removeNamespace (h : K.Sound applied) (ns : String) :
    (K.removeNamespace ns).Sound applied := by
  refine h.shrink (fun k b hb => (of_get?_removeNamespace hb).1) (fun k b hb hns => ?_) rfl
  obtain ⟨u, hu⟩ := OrderedMap.contains_iff.1 hns
  exact OrderedMap.contains_iff.2
    ⟨u, (OrderedMap.get?_erase_of_ne _ (of_get?_removeNamespace hb).2).trans hu⟩

/-- Only the trees have changed. -/
theorem withTrees {K' : Cluster} (h : K.Sound applied) (hbindings : K'.bindings = K.bindings)
    (hns : K'.namespaces = K.namespaces)
    (htrees : K'.TreesFrom FolderTree.Restates applied) : K'.Sound applied where
  keyed k b hb := h.keyed k b (hbindings ▸ hb)
  hasNamespace k b hb :=
    (hasNamespace_of_eq hns k.ns).trans (h.hasNamespace k b (hbindings ▸ hb))
  founded k b hb := h.founded k b (hbindings ▸ hb)
  trees := htrees

/-- Another version has been applied. -/
theorem mono (h : K.Sound applied) (v : FolderTree) : K.Sound (v :: applied) where
  keyed := h.keyed
  hasNamespace := h.hasNamespace
  founded k b hb := by
    obtain ⟨v', hv', hmade⟩ := h.founded k b hb
    exact ⟨v', List.mem_cons_of_mem _ hv', hmade⟩
  trees := TreesFrom.mono h.trees v

/-- A tree that is stored counts as applied. -/
theorem putTree (h : K.Sound applied) (t : FolderTree) : (K.putTree t).Sound (t :: applied) :=
  (h.mono t).withTrees rfl rfl
    (TreesFrom.insert (h.mono t).trees List.mem_cons_self (t.restates_withStatus _) t.name)

/-- To remove a tree keeps the invariant. -/
theorem removeTree (h : K.Sound applied) (name : String) : (K.removeTree name).Sound applied :=
  h.withTrees rfl rfl (TreesFrom.erase h.trees name)

/-- So does to store a status. -/
theorem putStatus (h : K.Sound applied) (name : String) (status : Status) :
    (K.putStatus name status).Sound applied :=
  h.withTrees (K.bindings_putStatus name status) (K.namespaces_putStatus name status)
    (TreesFrom.putStatus h.trees
      (fun t _ status ht => (t.restates_withStatus status).trans ht) name status)

/-- To create keeps the invariant, in a namespace that exists. -/
theorem create (h : K.Sound applied) (hns : K.hasNamespace b.key.ns = true)
    (hb : b.Founded applied) : (Cluster.create title b K).2.Sound applied :=
  (create_conditional title b).keeps_at h fun _ => h.putBinding hns hb

/-- What is replaced stands in a namespace that exists. -/
theorem replace (h : K.Sound applied) (hb : b.Founded applied) :
    (Cluster.replace title b K).2.Sound applied := by
  refine (replace_conditional title b).keeps_at h fun hthere => ?_
  obtain ⟨held, hheld⟩ := hthere
  exact h.putBinding (h.hasNamespace _ held hheld) hb

/-- To delete keeps the invariant. -/
theorem delete (h : K.Sound applied) : (Cluster.delete title key K).2.Sound applied :=
  (delete_conditional title key).keeps_at h fun _ => h.removeBinding key

end Sound

end Cluster

namespace FolderTree

variable {σ : Type} {api : Api σ} {cluster : σ → Cluster} {applied : List FolderTree}
  {t : FolderTree} {namespaces : OrderedMap String Unit}

/-- The invariant, while a pass finds these namespaces. -/
def SoundIn (cluster : σ → Cluster) (applied : List FolderTree)
    (namespaces : OrderedMap String Unit) (s : σ) : Prop :=
  (cluster s).Sound applied ∧ (cluster s).namespaces = namespaces

/-- A call keeps the invariant if it does where nothing fails. -/
theorem keeps_soundIn {α : Type} {a : Action σ α} {ideal : Action Cluster α}
    (ha : a.MayFail cluster ideal)
    (hsound : ∀ K, K.Sound applied → K.namespaces = namespaces → (ideal K).2.Sound applied)
    (hns : ∀ K, (ideal K).2.namespaces = K.namespaces) :
    a.Keeps (SoundIn cluster applied namespaces) := by
  refine ha.keeps (P := fun K => K.Sound applied ∧ K.namespaces = namespaces) fun K hK => ?_
  exact ⟨hsound K hK.1 hK.2, (hns K).trans hK.2⟩

/-- Every change that is due keeps the invariant. -/
theorem keeps_soundIn_apply (hapi : api.MayFail cluster) {v : FolderTree} (hv : v ∈ applied)
    (ht : t.Restates v) {desired : DesiredSet} (hdesired : t.ownedDesired = .ok desired)
    {live : List Binding} {c : Change} (hc : c ∈ desired.changesFrom (.ofBindings live)) :
    (c.apply api).Keeps (SoundIn cluster applied namespaces) := by
  have hask : ∀ ns, (api.namespaceExists ns).Keeps (SoundIn cluster applied namespaces) :=
    fun ns => keeps_soundIn (hapi.namespaceExists ns) (fun _ h _ => h) fun _ => rfl
  cases DesiredSet.mem_changesFrom_iff_due.1 hc with
  | @creation k g hg _ =>
      have hfounded : g.binding.Founded applied :=
        ⟨v, hv, g.template, ht.madeFrom (madeFrom_of_required hdesired hg)⟩
      refine Change.keeps_creation (hask k.ns) fun s mid hs hfound => ?_
      have hanswer := (hapi.namespaceExists k.ns).ok s true mid hfound
      obtain ⟨hexists, -⟩ := Action.outcome_eq_iff.1 hanswer
      have hthere : (cluster s).hasNamespace k.ns = true := Except.ok.inj hexists
      refine keeps_soundIn (hapi.create g.binding) (fun K hK hns => ?_)
        fun K => (congrArg Cluster.namespaces (K.create_only BindingKey.text g.binding) :)
      refine hK.create ?_ hfounded
      rw [desired_keyed hdesired k g hg, Cluster.hasNamespace_of_eq (hns.trans hs.2.symm), hthere]
  | @renewal k g held hg hheld _ _ =>
      obtain ⟨-, hkey⟩ := Baseline.mem_of_get?_ofBindings hheld
      have hfounded : (held.binding.refreshed g.binding).Founded applied :=
        ⟨v, hv, g.template, ht.madeFrom (madeFrom_of_refreshed hdesired hg hkey)⟩
      refine Change.keeps_apply hask (fun _ hkind => by cases hkind) (fun b _ hb => ?_)
        fun hkind => by cases hkind
      obtain rfl := Option.some.inj hb
      exact keeps_soundIn (hapi.replace _) (fun _ hK _ => hK.replace hfounded)
        fun K => (congrArg Cluster.namespaces (K.replace_only BindingKey.text _) :)
  | @removal k held hheld _ =>
      refine Change.keeps_apply hask (fun _ hkind => by cases hkind) (fun _ hkind => by cases hkind)
        fun _ => ?_
      exact keeps_soundIn (hapi.delete _) (fun _ hK _ => hK.delete)
        fun K => (congrArg Cluster.namespaces (K.delete_only BindingKey.text _) :)

/-- **A pass over a stored tree keeps the invariant**, whatever fails in it. -/
theorem sound_reconcile (hapi : api.MayFail cluster) (now : Instant) {s : σ}
    (hsound : (cluster s).Sound applied) {name : String}
    (ht : (cluster s).trees.get? name = some t) :
    (cluster (t.reconcile api now s).2).Sound applied := by
  obtain ⟨v, hv, hrestates⟩ := hsound.trees name t ht
  have hlist : (api.list t.name).Keeps (SoundIn cluster applied (cluster s).namespaces) :=
    keeps_soundIn (hapi.list t.name) (fun _ h _ => h) fun _ => rfl
  have hsync : (t.syncBindings api).Keeps (SoundIn cluster applied (cluster s).namespaces) :=
    keeps_syncBindings hlist fun _ _ _ _ hdesired _ _ _ hc =>
      keeps_soundIn_apply hapi hv hrestates hdesired hc
  have hpass := keeps_reconcile hsync (fun status => keeps_soundIn (hapi.patchStatus t.name status)
    (fun _ hK _ => hK.putStatus t.name status)
    fun K => K.namespaces_putStatus t.name status) now
  exact (hpass s ⟨hsound, rfl⟩).1

end FolderTree

/-- A cluster, and all versions of trees that were applied to it. -/
structure Chronicle where
  cluster : Cluster
  applied : List FolderTree := []

namespace Chronicle

/-- What can happen next to a cluster in which nobody makes bindings by hand.  Each pass
has a server of its own, which may fail at any call. -/
inductive Step (c : Chronicle) : Chronicle → Prop
  | apply (t : FolderTree) : Step c ⟨c.cluster.putTree t, t :: c.applied⟩
  /-- A pass over the stored tree of that name. -/
  | reconcile {σ : Type} {api : Api σ} {cluster : σ → Cluster} (hapi : api.MayFail cluster)
      {s : σ} (hs : cluster s = c.cluster) (now : Instant) {name : String} {t : FolderTree}
      (ht : c.cluster.trees.get? name = some t) :
      Step c { c with cluster := cluster (t.reconcile api now s).2 }
  | deleteTree (name : String) : Step c { c with cluster := c.cluster.removeTree name }
  | addNamespace (ns : String) : Step c { c with cluster := c.cluster.addNamespace ns }
  | removeNamespace (ns : String) : Step c { c with cluster := c.cluster.removeNamespace ns }
  | removeBinding (key : BindingKey) : Step c { c with cluster := c.cluster.removeBinding key }

/-- A chronicle that begins without bindings and trees and goes on step by step. -/
inductive Reachable : Chronicle → Prop
  | start (namespaces : OrderedMap String Unit) : Reachable ⟨{ namespaces }, []⟩
  | step {c c' : Chronicle} (hreach : Reachable c) (hstep : c.Step c') : Reachable c'

variable {c c' : Chronicle}

/-- One step keeps the invariant. -/
theorem Step.sound (h : c.Step c') (hsound : c.cluster.Sound c.applied) :
    c'.cluster.Sound c'.applied := by
  cases h with
  | apply t => exact hsound.putTree t
  | reconcile hapi hs now ht =>
      rw [← hs] at hsound ht
      exact FolderTree.sound_reconcile hapi now hsound ht
  | deleteTree name => exact hsound.removeTree name
  | addNamespace ns => exact hsound.addNamespace ns
  | removeNamespace ns => exact hsound.removeNamespace ns
  | removeBinding key => exact hsound.removeBinding key

/-- All steps keep the invariant. -/
theorem Reachable.sound (h : c.Reachable) : c.cluster.Sound c.applied := by
  induction h with
  | start namespaces => exact .start namespaces
  | step _ hstep ih => exact hstep.sound ih

end Chronicle

/-- The version that an event applies, if it applies one. -/
def Event.applied? : Event → Option FolderTree
  | .apply t => some t
  | _ => none

/-- Whether the event is that somebody makes a binding by hand. -/
def Event.isByHand : Event → Bool
  | .putBinding _ => true
  | _ => false

/-- What a session is after some events at some times. -/
def Session.after (s : Session) (events : List (Instant × Event)) : Session :=
  events.foldl (fun s e => (s.step e.1 e.2).2) s

/-- A pass over a tree that is not stored does nothing. -/
theorem Session.step_reconcile_of_none {s : Session} {name : String} (now : Instant)
    (h : s.world.trees.get? name = none) : (s.step now (.reconcile name)).2 = s := by
  simp only [step, h]

/-- A pass over a stored tree is a pass of that tree. -/
theorem Session.step_reconcile_of_some {s : Session} {name : String} {t : FolderTree}
    (now : Instant) (h : s.world.trees.get? name = some t) :
    (s.step now (.reconcile name)).2 = (t.reconcile (Scripted.api Cluster.api) now s).2 := by
  simp only [step, h]
  rcases t.reconcile (Scripted.api Cluster.api) now s with ⟨f | next, s'⟩
  · rfl
  · rfl

namespace Chronicle

/-- An event of a session is a step, unless a binding is made by hand. -/
theorem Reachable.session {s : Session} {applied : List FolderTree}
    (h : Reachable ⟨s.world, applied⟩) (now : Instant) {e : Event} (he : e.isByHand = false) :
    Reachable ⟨(s.step now e).2.world, e.applied?.toList ++ applied⟩ := by
  cases e with
  | apply t => exact h.step (.apply t)
  | reconcile name =>
      cases ht : s.world.trees.get? name with
      | none =>
          rw [Session.step_reconcile_of_none now ht]
          exact h
      | some t =>
          rw [Session.step_reconcile_of_some now ht]
          exact h.step (.reconcile Cluster.api_mayFail.scripted rfl now ht)
  | deleteTree name => exact h.step (.deleteTree name)
  | addNamespace ns => exact h.step (.addNamespace ns)
  | removeNamespace ns => exact h.step (.removeNamespace ns)
  | putBinding b => cases he
  | removeBinding key => exact h.step (.removeBinding key)
  | fail rules => exact h

/-- So are the events of a session one after the other. -/
theorem Reachable.session_after {s : Session} {applied : List FolderTree}
    (h : Reachable ⟨s.world, applied⟩) {events : List (Instant × Event)}
    (he : ∀ e ∈ events, e.2.isByHand = false) :
    Reachable ⟨(s.after events).world, events.reverse.filterMap (·.2.applied?) ++ applied⟩ := by
  induction events generalizing s applied with
  | nil => exact h
  | cons e rest ih =>
      have hrest := ih (h.session e.1 (he e List.mem_cons_self)) fun e' he' =>
        he e' (List.mem_cons_of_mem _ he')
      have happlied : (e :: rest).reverse.filterMap (·.2.applied?) ++ applied =
          rest.reverse.filterMap (·.2.applied?) ++ (e.2.applied?.toList ++ applied) := by
        rw [List.reverse_cons, List.filterMap_append, List.append_assoc]
        cases happlies : e.2.applied? <;> simp [happlies]
      rw [happlied]
      exact hrest

variable {c : Chronicle}

/-- **Every stored binding comes from a template.**  However trees, namespaces and
bindings came and went, and wherever passes failed: a binding that is stored stands at
its own key, in a namespace that exists, and is by its labels, its name, its role and its
subjects what some template of a version gives that was applied before. -/
theorem stored_from_template (h : c.Reachable) {k : BindingKey} {b : Binding}
    (hb : c.cluster.bindings.get? k = some b) :
    b.key = k ∧ c.cluster.hasNamespace k.ns = true ∧
      ∃ v ∈ c.applied, ∃ m, b.MadeFrom v m := by
  have hsound : c.cluster.Sound c.applied := h.sound
  exact ⟨hsound.keyed k b hb, hsound.hasNamespace k b hb, hsound.founded k b hb⟩

/-- A club that lets some people into its rooms. -/
def club (guests : List Subject) : FolderTree where
  metadata := { name := some "club", uid := some "uid-1" }
  spec :=
    { folders :=
        [{ name := "rooms"
           templates := [⟨"guest", guests, .clusterRole "view", none⟩]
           namespaces := ["lobby", "yard"] }] }

/-- It is founded, lets one more in and loses its yard; of its passes two fail. -/
def clubEvents : List (Instant × Event) :=
  [(⟨1, 0⟩, .addNamespace "lobby"), (⟨2, 0⟩, .addNamespace "yard"),
    (⟨3, 0⟩, .apply (club [.user "ada"])),
    (⟨4, 0⟩, .fail
      [{ verb := "create", ns := some "yard", times := some 1
         fault := .internal "server" "out of order" },
       { verb := "replace", times := some 1, fault := .internal "server" "out of order" }]),
    (⟨5, 0⟩, .reconcile "club"), (⟨6, 0⟩, .reconcile "club"),
    (⟨7, 0⟩, .apply (club [.user "ada", .user "bob"])),
    (⟨8, 0⟩, .reconcile "club"), (⟨9, 0⟩, .removeNamespace "yard"),
    (⟨10, 0⟩, .reconcile "club")]

/-- The session after that. -/
def clubSession : Session := Session.after ⟨{}, [], []⟩ clubEvents

theorem stored_from_template_club :
    ∃ b, clubSession.world.bindings.get? ⟨"lobby", "foldertree-club-guest"⟩ = some b ∧
      b.subjects = some [.user "ada", .user "bob"] ∧
      b.key = ⟨"lobby", "foldertree-club-guest"⟩ ∧
      clubSession.world.hasNamespace "lobby" = true ∧
      ∃ v ∈ [club [.user "ada", .user "bob"], club [.user "ada"]], ∃ m, b.MadeFrom v m := by
  have hreach : Reachable ⟨clubSession.world,
      [club [.user "ada", .user "bob"], club [.user "ada"]]⟩ :=
    Reachable.session_after (s := ⟨{}, [], []⟩) (.start .empty) (by decide)
  exact ⟨_, rfl, rfl, stored_from_template hreach rfl⟩

end Chronicle

end FolderGrants
