import FolderGrants.Proofs.DriftRepair
import FolderGrants.Proofs.PassDeletions
import FolderGrants.Proofs.Resumption
import FolderGrants.Proofs.StoreInvariant

/-!
# Who owns the bindings of a tree

The bindings of a tree that is deleted are not taken away by a pass.  They are collected,
because they name the tree as their owner, and they name it by its identity.  A pass puts
this down where it creates a binding.  What it finds with the right role it keeps, or
renews over what stands there, and all else of the metadata stays, the owners with it.  So
a binding names the tree for which it was created, and not the one that asks for it now.

* `Binding.OwnedAs` — a binding names a version of its tree as its only owner;
* `Cluster.Owned` — every binding that carries the label of a tree was created for a
  version of it, and `Chronicle.Reachable.owned`, as it is in every run;
* `FolderTree.owners_of_settled`, `FolderTree.exists_kept_of_settled` — a pass that
  succeeds leaves its own owner and those of what it has kept;
* `Chronicle.owned_unless_reborn` — what a tree owns after a pass, and
  `Chronicle.reborn_not_owned`, a tree that does not own its binding.
-/

namespace FolderGrants

/-- An owner with this identity controls the binding. -/
def Binding.ControlledBy (b : Binding) (uid : String) : Prop :=
  ∃ o ∈ b.metadata.owners.getD [], o.controller = some true ∧ o.uid = uid

instance (b : Binding) (uid : String) : Decidable (b.ControlledBy uid) :=
  inferInstanceAs
    (Decidable (∃ o ∈ b.metadata.owners.getD [], o.controller = some true ∧ o.uid = uid))

/-- The owners of what is created for a tree. -/
def FolderTree.owners (t : FolderTree) : Option (List Owner) := t.controllerOwner?.map ([·])

/-- The binding carries the label of the version, and has the owners that it would be
created with. -/
structure Binding.OwnedAs (b : Binding) (v : FolderTree) : Prop where
  tree : b.tree? = some v.name
  owners : b.metadata.owners = v.owners

namespace FolderTree

variable {t v : FolderTree} {desired : DesiredSet} {k : BindingKey} {g : Grant} {b : Binding}
  {n u : String}

/-- The owners that a tree gives its bindings can be told from its metadata. -/
theorem owners_eq_of_metadata (h : t.metadata = v.metadata) : t.owners = v.owners := by
  rw [owners, owners, controllerOwner?, controllerOwner?, h]

theorem name_eq_of_metadata (h : t.metadata = v.metadata) : t.name = v.name := by
  rw [name, name, h]

/-- A tree goes by the name in its metadata. -/
theorem name_of_metadata (hname : t.metadata.name = some n) : t.name = n := by
  rw [name, Metadata.anyName, hname]
  rfl

/-- The owner of what is created for a tree with a name and an identity is the tree. -/
theorem controlledBy_of_owners (hname : t.metadata.name = some n)
    (huid : t.metadata.uid = some u) (h : b.metadata.owners = t.owners) : b.ControlledBy u := by
  have howner : t.owners = some [⟨apiVersion, kind, n, u, some true, none⟩] := by
    rw [owners, controllerOwner?, hname, huid]
    rfl
  rw [Binding.ControlledBy, h, howner]
  exact ⟨_, List.mem_singleton_self _, rfl, rfl⟩

/-- What a tree requires names it as its owner. -/
theorem ownedAs_of_required (hdesired : t.ownedDesired = .ok desired)
    (hg : desired.get? k = some g) : g.binding.OwnedAs t := by
  obtain ⟨e, -, -, rfl⟩ := (desired_eq_ok_iff.1 hdesired).exists_emission hg
  exact ⟨desired_tree? hdesired hg, rfl⟩

end FolderTree

namespace Cluster

/-- What carries the label of a tree has the owners of a version that was applied, and
every stored tree has the metadata of one. -/
structure Owned (applied : List FolderTree) (K : Cluster) : Prop where
  bindings : ∀ tree, ∀ b ∈ K.bindingsOf tree, ∃ v ∈ applied, b.OwnedAs v
  trees : K.TreesFrom (fun t v => t.metadata = v.metadata) applied

namespace Owned

variable {applied : List FolderTree} {K K' : Cluster}

/-- Where nothing is stored, everything is owned as it should be. -/
theorem start (namespaces : OrderedMap String Unit) :
    ({ namespaces } : Cluster).Owned applied where
  bindings _ _ hb := by cases hb
  trees _ _ ht := by cases ht

/-- A binding that is new has the owners of some version. -/
theorem of_bindings (h : K.Owned applied)
    (hnew : ∀ tree, ∀ b ∈ K'.bindingsOf tree,
      b ∈ K.bindingsOf tree ∨ ∃ v ∈ applied, b.OwnedAs v)
    (htrees : K'.trees = K.trees) : K'.Owned applied where
  bindings tree b hb := by
    rcases hnew tree b hb with hold | hfounded
    · exact h.bindings tree b hold
    · exact hfounded
  trees name t ht := h.trees name t (htrees ▸ ht)

/-- To remove a binding keeps the invariant. -/
theorem removeBinding (h : K.Owned applied) (key : BindingKey) :
    (K.removeBinding key).Owned applied :=
  h.of_bindings (fun _ _ hb => .inl (mem_bindingsOf_removeBinding hb)) rfl

/-- So does to remove a namespace with its bindings. -/
theorem removeNamespace (h : K.Owned applied) (ns : String) :
    (K.removeNamespace ns).Owned applied := by
  refine h.of_bindings (fun tree b hb => .inl ?_) rfl
  obtain ⟨⟨k, hk⟩, htree⟩ := mem_bindingsOf_iff.1 hb
  exact mem_bindingsOf_iff.2 ⟨⟨k, (of_get?_removeNamespace hk).1⟩, htree⟩

/-- Another version has been applied. -/
theorem mono (h : K.Owned applied) (v : FolderTree) : K.Owned (v :: applied) where
  bindings tree b hb := by
    obtain ⟨v', hv', howned⟩ := h.bindings tree b hb
    exact ⟨v', List.mem_cons_of_mem _ hv', howned⟩
  trees := h.trees.mono v

/-- A tree that is stored counts as applied. -/
theorem putTree (h : K.Owned applied) (t : FolderTree) : (K.putTree t).Owned (t :: applied) := by
  have hmetadata : ∀ status, ({ t with status } : FolderTree).metadata = t.metadata :=
    fun _ => rfl
  have hmono := h.mono t
  exact ⟨hmono.bindings, hmono.trees.insert List.mem_cons_self (hmetadata _) t.name⟩

/-- To remove a tree keeps the invariant. -/
theorem removeTree (h : K.Owned applied) (name : String) : (K.removeTree name).Owned applied :=
  ⟨h.bindings, h.trees.erase name⟩

/-- So does to store a status. -/
theorem putStatus (h : K.Owned applied) (name : String) (status : Status) :
    (K.putStatus name status).Owned applied where
  bindings tree b hb := by
    rw [bindingsOf_of_eq (K.bindings_putStatus name status)] at hb
    exact h.bindings tree b hb
  trees := h.trees.putStatus (fun _ _ _ ht => ht) name status

end Owned

end Cluster

namespace FolderTree

variable {σ : Type} {api : Api σ} {cluster : σ → Cluster} {applied : List FolderTree}
  {t v : FolderTree}

/-- A call keeps the invariant if what it sends has the owners of some version. -/
theorem keeps_owned {α : Type} {a : Action σ α} {ideal : Action Cluster α}
    {sent : Option Binding} (ha : a.MayFail cluster ideal)
    (hadds : ∀ tree, ideal.AddsOnly id tree sent)
    (htrees : ∀ K, (ideal K).2.trees = K.trees)
    (hsent : ∀ b, sent = some b → ∃ v ∈ applied, b.OwnedAs v) :
    a.Keeps fun s => (cluster s).Owned applied := by
  refine ha.keeps (P := Cluster.Owned applied) fun K hK => ?_
  refine hK.of_bindings (fun tree b hb => ?_) (htrees K)
  exact (hadds tree K b hb).imp_right (hsent b)

/-- What a listed change writes has the owners of the version that is stored, or those of
what was listed. -/
theorem exists_ownedAs_of_written {desired : DesiredSet} {live : List Binding} {c : Change}
    {b : Binding} (hdesired : t.ownedDesired = .ok desired) (hv : v ∈ applied)
    (hmetadata : t.metadata = v.metadata) (htree : ∀ b ∈ live, b.tree? = some t.name)
    (howned : ∀ b ∈ live, ∃ v ∈ applied, b.OwnedAs v)
    (hc : c ∈ desired.changesFrom (.ofBindings live)) (hb : c.written? = some b) :
    ∃ v ∈ applied, b.OwnedAs v := by
  cases DesiredSet.mem_changesFrom_iff_due.1 hc with
  | creation hg _ =>
      obtain rfl := Option.some.inj hb
      obtain ⟨hlabel, howners⟩ := ownedAs_of_required hdesired hg
      exact ⟨v, hv, hlabel.trans (congrArg some (name_eq_of_metadata hmetadata)),
        howners.trans (owners_eq_of_metadata hmetadata)⟩
  | renewal hg hheld _ _ =>
      obtain rfl := Option.some.inj hb
      obtain ⟨hlisted, -⟩ := Baseline.mem_of_get?_ofBindings hheld
      obtain ⟨v', hv', hlabel, howners⟩ := howned _ hlisted
      have hname : some t.name = some v'.name := (htree _ hlisted).symm.trans hlabel
      exact ⟨v', hv', (refreshed_tree? hdesired hg _).trans hname, howners⟩
  | removal => cases hb

/-- A pass over a stored tree keeps the invariant, whatever fails in it. -/
theorem owned_reconcile (hapi : api.MayFail cluster) (now : Instant) {s : σ}
    (howned : (cluster s).Owned applied) {name : String}
    (ht : (cluster s).trees.get? name = some t) :
    (cluster (t.reconcile api now s).2).Owned applied := by
  obtain ⟨v, hv, hmetadata⟩ := howned.trees name t ht
  have hlist : (api.list t.name).Keeps fun s => (cluster s).Owned applied :=
    (hapi.list t.name).keeps (P := Cluster.Owned applied) fun _ h => h
  have hask : ∀ ns, (api.namespaceExists ns).Keeps fun s => (cluster s).Owned applied :=
    fun ns => (hapi.namespaceExists ns).keeps (P := Cluster.Owned applied) fun _ h => h
  have hdelete : ∀ key, (api.delete key).Keeps fun s => (cluster s).Owned applied := fun key =>
    keeps_owned (hapi.delete key) (fun tree => Cluster.delete_addsOnly tree _ key)
      (fun K => (congrArg Cluster.trees (K.delete_only _ key) :)) fun _ hsent => by cases hsent
  have hpatch : ∀ status, (api.patchStatus t.name status).Keeps
      fun s => (cluster s).Owned applied := fun status =>
    (hapi.patchStatus t.name status).keeps (P := Cluster.Owned applied) fun _ h =>
      h.putStatus t.name status
  refine keeps_reconcile (keeps_syncBindings hlist ?_) hpatch now s howned
  intro desired live s₁ s₂ hdesired hs₁ hrun c hc
  obtain ⟨hlive, -⟩ := Action.outcome_eq_iff.1 ((hapi.list t.name).ok s₁ live s₂ hrun)
  obtain rfl := Except.ok.inj hlive
  have hwritten : ∀ b, c.written? = some b → ∃ v ∈ applied, b.OwnedAs v := fun b hb =>
    exists_ownedAs_of_written hdesired hv hmetadata
      (fun _ hlisted => (Cluster.mem_bindingsOf_iff.1 hlisted).2) (hs₁.bindings t.name) hc hb
  refine Change.keeps_apply hask (fun b _ hb => ?_) (fun b _ hb => ?_) fun _ => hdelete _
  · exact keeps_owned (hapi.create b) (fun tree => Cluster.create_addsOnly tree _ b)
      (fun K => (congrArg Cluster.trees (K.create_only _ b) :))
      fun _ hsent => Option.some.inj hsent ▸ hwritten b hb
  · exact keeps_owned (hapi.replace b) (fun tree => Cluster.replace_addsOnly tree _ b)
      (fun K => (congrArg Cluster.trees (K.replace_only _ b) :))
      fun _ hsent => Option.some.inj hsent ▸ hwritten b hb

end FolderTree

namespace Chronicle

variable {c c' : Chronicle}

/-- One step keeps the invariant. -/
theorem Step.owned (h : c.Step c') (howned : c.cluster.Owned c.applied) :
    c'.cluster.Owned c'.applied := by
  cases h with
  | apply t => exact howned.putTree t
  | reconcile hapi hs now ht =>
      rw [← hs] at howned ht
      exact FolderTree.owned_reconcile hapi now howned ht
  | deleteTree name => exact howned.removeTree name
  | addNamespace ns => exact ⟨howned.bindings, howned.trees⟩
  | removeNamespace ns => exact howned.removeNamespace ns
  | removeBinding key => exact howned.removeBinding key

/-- All steps keep the invariant. -/
theorem Reachable.owned (h : c.Reachable) : c.cluster.Owned c.applied := by
  induction h with
  | start namespaces => exact .start namespaces
  | step _ hstep ih => exact hstep.owned ih

end Chronicle

namespace Grant

variable {g : Grant} {o : Option Binding} {b b₀ : Binding}

/-- A binding that has the required role is settled to one with its owners. -/
theorem exists_settle_of_role (found : Bool) (hrole : b₀.roleRef = g.binding.roleRef) :
    ∃ b, g.settle found (some b₀) = some b ∧ b.metadata.owners = b₀.metadata.owners := by
  rw [settle, if_neg (not_not_intro hrole)]
  by_cases hrefresh : b₀.needsRefresh g.binding = true
  · rw [if_pos hrefresh]
    exact ⟨_, rfl, rfl⟩
  · rw [if_neg hrefresh]
    exact ⟨_, rfl, rfl⟩

/-- What a required key is settled to is the required binding itself, or has the owners of
one that stood there with the required role. -/
theorem owners_of_settle {found : Bool} (h : g.settle found o = some b) :
    b = g.binding ∨ ∃ b₀, o = some b₀ ∧ b₀.roleRef = g.binding.roleRef ∧
      b.metadata.owners = b₀.metadata.owners := by
  have hnew : (if found then some g.binding else none) = some b → b = g.binding := by
    intro hmade
    cases found with
    | false => cases hmade
    | true => exact (Option.some.inj hmade).symm
  cases o with
  | none => exact .inl (hnew h)
  | some b₀ =>
      by_cases hrole : b₀.roleRef = g.binding.roleRef
      · obtain ⟨b', hsettle, howners⟩ := g.exists_settle_of_role found hrole
        obtain rfl := Option.some.inj (h.symm.trans hsettle)
        exact .inr ⟨b₀, rfl, hrole, howners⟩
      · rw [settle, if_pos hrole] at h
        exact .inl (hnew h)

end Grant

namespace FolderTree

section Settled

variable {t : FolderTree} {desired : DesiredSet} {K K' : Cluster} {k : BindingKey}
  {b b₀ : Binding}

/-- What carries the label after the changes of a pass is what its key was settled to. -/
theorem settle_of_settled (hdesired : t.ownedDesired = .ok desired) (hkeyed : K.Keyed)
    (hchain : Chain Change.Settled (desired.changesFrom (.ofBindings (K.bindingsOf t.name))) K K')
    (hb : K'.bindings.get? k = some b) (htree : b.tree? = some t.name) :
    foreign t.name (K.bindings.get? k) = false ∧ ∃ g, desired.get? k = some g ∧
      g.settle (K.hasNamespace k.ns) (K.bindings.get? k) = some b := by
  have halike := alikeAll_of_chain hkeyed hdesired (List.append_nil _).symm
    (Change.done_of_settled hchain) k
  obtain ⟨g, hg, hserves⟩ := inOrder_of_settled hdesired hkeyed hchain k b hb htree
  have hown' := foreign_some_eq_false_iff.2 htree
  have hown : foreign t.name (K.bindings.get? k) = false := by
    rw [← halike.foreign, hb, hown']
  refine ⟨hown, g, hg, ?_⟩
  rw [← DesiredSet.settle_of_required hg hown, ← halike.settle, hb,
    DesiredSet.settle_of_required hg hown', Grant.settle_of_serves _ hserves]

/-- What carries the label after a pass has the owner that the tree gives, or was kept:
then it has the owners of a binding of the tree that stood at its key with a role that the
tree asks for. -/
theorem owners_of_settled (hdesired : t.ownedDesired = .ok desired) (hkeyed : K.Keyed)
    (hchain : Chain Change.Settled (desired.changesFrom (.ofBindings (K.bindingsOf t.name))) K K')
    (hb : b ∈ K'.bindingsOf t.name) :
    b.metadata.owners = t.owners ∨ ∃ b₀ ∈ K.bindingsOf t.name, t.Asks b₀ ∧
      b.metadata.owners = b₀.metadata.owners := by
  obtain ⟨⟨k, hk⟩, htree⟩ := Cluster.mem_bindingsOf_iff.1 hb
  obtain ⟨hown, g, hg, hsettle⟩ := settle_of_settled hdesired hkeyed hchain hk htree
  rcases Grant.owners_of_settle hsettle with rfl | ⟨b₀, hb₀, hrole, howners⟩
  · exact .inl (ownedAs_of_required hdesired hg).owners
  · rw [hb₀] at hown
    have hlisted : b₀ ∈ K.bindingsOf t.name :=
      Cluster.mem_bindingsOf_iff.2 ⟨⟨k, hb₀⟩, foreign_some_eq_false_iff.1 hown⟩
    have hasks : t.Asks b₀ :=
      (asks_iff_of_desired hdesired rfl).2 ⟨g, (hkeyed k b₀ hb₀).symm ▸ hg, hrole.symm⟩
    exact .inr ⟨b₀, hlisted, hasks, howners⟩

/-- A binding of the tree with a role that the tree asks for is kept, with its owners. -/
theorem exists_kept_of_settled (hdesired : t.ownedDesired = .ok desired) (hkeyed : K.Keyed)
    (hchain : Chain Change.Settled (desired.changesFrom (.ofBindings (K.bindingsOf t.name))) K K')
    (hb₀ : b₀ ∈ K.bindingsOf t.name) (hasks : t.Asks b₀)
    (hns : K.hasNamespace b₀.key.ns = true) :
    ∃ b ∈ K'.bindingsOf t.name, b.metadata.owners = b₀.metadata.owners := by
  obtain ⟨⟨k, hk⟩, htree⟩ := Cluster.mem_bindingsOf_iff.1 hb₀
  obtain rfl := hkeyed k b₀ hk
  obtain ⟨g, hg, hrole⟩ := (asks_iff_of_desired hdesired rfl).1 hasks
  have hns' : K'.hasNamespace b₀.key.ns = true :=
    (Cluster.hasNamespace_of_eq
      (Change.namespaces_of_done (Change.done_of_settled hchain)) _).trans hns
  obtain ⟨b, hb, hserves⟩ := served_of_settled hdesired hkeyed hchain hg hns'
  obtain ⟨-, hlabel, -⟩ := tracking_of_serves hdesired hg hserves
  obtain ⟨-, g', hg', hsettle⟩ := settle_of_settled hdesired hkeyed hchain hb hlabel
  obtain rfl := Option.some.inj (hg.symm.trans hg')
  obtain ⟨b', hsettle', howners⟩ :=
    g.exists_settle_of_role (K.hasNamespace b₀.key.ns) hrole.symm
  rw [hk] at hsettle
  obtain rfl := Option.some.inj (hsettle.symm.trans hsettle')
  exact ⟨b, Cluster.mem_bindingsOf_iff.2 ⟨⟨_, hb⟩, hlabel⟩, howners⟩

/-- After a pass the tree controls all that carries its label, if it controlled what the pass
has kept, and not otherwise. -/
theorem controlled_iff_of_settled {u : String} (huid : t.metadata.uid = some u)
    (hname : t.metadata.name = some t.name) (hdesired : t.ownedDesired = .ok desired)
    (hkeyed : K.Keyed)
    (hns : ∀ k b, K.bindings.get? k = some b → K.hasNamespace k.ns = true)
    (hchain : Chain Change.Settled (desired.changesFrom (.ofBindings (K.bindingsOf t.name)))
      K K') :
    (∀ b ∈ K'.bindingsOf t.name, b.ControlledBy u) ↔
      ∀ b ∈ K.bindingsOf t.name, t.Asks b → b.ControlledBy u := by
  constructor
  · intro hall b₀ hb₀ hasks
    obtain ⟨⟨k, hk⟩, -⟩ := Cluster.mem_bindingsOf_iff.1 hb₀
    have hfound : K.hasNamespace b₀.key.ns = true := (hkeyed k b₀ hk).symm ▸ hns k b₀ hk
    obtain ⟨b, hb, howners⟩ := exists_kept_of_settled hdesired hkeyed hchain hb₀ hasks hfound
    have hcontrolled := hall b hb
    rwa [Binding.ControlledBy, howners] at hcontrolled
  · intro hkept b hb
    rcases owners_of_settled hdesired hkeyed hchain hb with hown | ⟨b₀, hb₀, hasks, howners⟩
    · exact controlledBy_of_owners hname huid hown
    · rw [Binding.ControlledBy, howners]
      exact hkept b₀ hb₀ hasks

end Settled

/-- What carries the label of a tree after a pass over it has the owners of a version of its
name. -/
theorem exists_version_of_reconcile {σ : Type} {api : Api σ} {cluster : σ → Cluster}
    (hapi : api.MayFail cluster) {applied : List FolderTree} {t : FolderTree} {now : Instant}
    {s s' : σ} (howned : (cluster s).Owned applied) {stored : String}
    (ht : (cluster s).trees.get? stored = some t) {x : Except Fault Followup}
    (hpass : t.reconcile api now s = (x, s')) {b : Binding}
    (hb : b ∈ (cluster s').bindingsOf t.name) :
    ∃ v ∈ applied, v.name = t.name ∧ b.metadata.owners = v.owners := by
  have howned' := owned_reconcile hapi now howned ht
  rw [hpass] at howned'
  obtain ⟨v, hv, hlabel, howners⟩ := howned'.bindings t.name b hb
  have htree := (Cluster.mem_bindingsOf_iff.1 hb).2
  exact ⟨v, hv, Option.some.inj (hlabel.symm.trans htree), howners⟩

end FolderTree

namespace Chronicle

variable {c : Chronicle}

/-- **A tree owns its bindings unless it was born again.**  However trees, namespaces and
bindings came and went and wherever passes failed, after a pass that succeeds over a tree
with the name `n` and the identity `u` that is not being deleted:

* whatever carries its label has the owners of a version of that name that was applied;
* if no other identity was ever applied under that name, `u` controls all of it;
* if no deletion of the pass was passed over of a binding that was there, `u` controls all
  of it exactly if `u` controlled those bindings before that the pass has kept, that is,
  those with a role that the tree asks for at their keys. -/
theorem owned_unless_reborn (h : c.Reachable) {σ : Type} {api : Api σ} {cluster : σ → Cluster}
    (hapi : api.MayFail cluster) {s s' : σ} (hs : cluster s = c.cluster) {stored n u : String}
    {t : FolderTree} (ht : c.cluster.trees.get? stored = some t)
    (hname : t.metadata.name = some n) (huid : t.metadata.uid = some u)
    (hlive : t.metadata.deletionTimestamp = none) {now : Instant} {next : Followup}
    (hpass : t.reconcile api now s = (.ok next, s')) :
    (∀ b ∈ (cluster s').bindingsOf n,
      ∃ v ∈ c.applied, v.name = n ∧ b.metadata.owners = v.owners) ∧
    ((∀ v ∈ c.applied, v.name = n → v.metadata.name = some n ∧ v.metadata.uid = some u) →
      ∀ b ∈ (cluster s').bindingsOf n, b.ControlledBy u) ∧
    (api.DeletesHonestly cluster →
      ((∀ b ∈ (cluster s').bindingsOf n, b.ControlledBy u) ↔
        ∀ b ∈ c.cluster.bindingsOf n, t.Asks b → b.ControlledBy u)) := by
  obtain rfl := FolderTree.name_of_metadata hname
  have hversion : ∀ b ∈ (cluster s').bindingsOf t.name,
      ∃ v ∈ c.applied, v.name = t.name ∧ b.metadata.owners = v.owners := fun b hb =>
    FolderTree.exists_version_of_reconcile hapi (hs ▸ h.owned) (hs ▸ ht) hpass hb
  refine ⟨hversion, fun hsame b hb => ?_, fun hhonest => ?_⟩
  · obtain ⟨v, hv, hown, howners⟩ := hversion b hb
    obtain ⟨hname', huid'⟩ := hsame v hv hown
    exact FolderTree.controlledBy_of_owners hname' huid' howners
  · obtain ⟨summary, mid, hsync, hleft⟩ :=
      FolderTree.exists_synced_of_reconcile hapi hlive hpass
    obtain ⟨desired, hdesired, hchain⟩ :=
      FolderTree.settled_of_truthful hapi.truthful hhonest hsync
    have hsound : c.cluster.Sound c.applied := h.sound
    rw [hs] at hchain
    rw [Cluster.bindingsOf_of_eq hleft]
    exact FolderTree.controlled_iff_of_settled huid hname hdesired hsound.keyed
      hsound.hasNamespace hchain

open FolderTree (outpost outpostKey)

/-- The outpost is founded, and a pass is made over it. -/
def outpostSession : Session :=
  Session.after ⟨{}, [], []⟩
    [(⟨1, 0⟩, .addNamespace "a"), (⟨2, 0⟩, .apply outpost), (⟨3, 0⟩, .reconcile "outpost")]

/-- What happens at the outpost can happen. -/
theorem outpostSession_reachable : Reachable ⟨outpostSession.world, [outpost]⟩ :=
  Reachable.session_after (s := ⟨{}, [], []⟩) (.start .empty) (by decide)

/-- The outpost lets one more edit. -/
def grownOutpost : FolderTree where
  metadata := outpost.metadata
  spec :=
    { folders :=
        [{ name := "dev"
           templates := [⟨"edit", [.user "ada", .user "bob"], .clusterRole "edit", none⟩]
           namespaces := ["a"] }] }

/-- The session after that. -/
def grownSession : Session := outpostSession.after [(⟨4, 0⟩, .apply grownOutpost)]

/-- The tree as it is stored then. -/
def storedOutpost : FolderTree := (grownSession.world.trees.get? "outpost").getD {}

/-- A pass over it. -/
def grownPass : Except Fault Followup × Nat × Cluster :=
  storedOutpost.reconcile (Cluster.flaky (Cluster.hiccup 9)) ⟨5, 0⟩ (0, grownSession.world)

theorem owned_unless_reborn_outpost :
    grownPass.1 = .ok .awaitChange ∧
      (∃ b ∈ grownPass.2.2.bindingsOf "outpost", b.subjects = some [.user "ada", .user "bob"]) ∧
      (∀ b ∈ grownPass.2.2.bindingsOf "outpost", b.ControlledBy "uid-1") ∧
      ∀ b ∈ grownSession.world.bindingsOf "outpost", storedOutpost.Asks b →
        b.ControlledBy "uid-1" := by
  have hreach : Reachable ⟨grownSession.world, [grownOutpost, outpost]⟩ :=
    outpostSession_reachable.session_after (by decide)
  have hstored : grownSession.world.trees.get? "outpost" = some storedOutpost := rfl
  have hok : grownPass.1 = .ok .awaitChange := rfl
  have hpass : storedOutpost.reconcile (Cluster.flaky (Cluster.hiccup 9)) ⟨5, 0⟩
      (0, grownSession.world) = (.ok .awaitChange, grownPass.2) := Prod.ext hok rfl
  obtain ⟨-, hsame, hexact⟩ := owned_unless_reborn hreach
    (Cluster.flaky_mayFail (Cluster.hiccup 9)) rfl hstored rfl rfl rfl hpass
  have howned := hsame (by decide)
  exact ⟨hok, by decide, howned, (hexact (Cluster.hiccup_deletesHonestly 9)).1 howned⟩

/-- The outpost under another identity. -/
def rebornOutpost : FolderTree :=
  { outpost with metadata := { outpost.metadata with uid := some "uid-2" } }

/-- It is deleted, and applied again before its binding has been collected. -/
def rebornSession : Session :=
  outpostSession.after [(⟨4, 0⟩, .deleteTree "outpost"), (⟨5, 0⟩, .apply rebornOutpost)]

/-- A pass after that. -/
def rebornPass : Except Fault Followup × Cluster :=
  rebornOutpost.reconcile Cluster.api ⟨6, 0⟩ rebornSession.world

/-- The binding of the outpost stays with the owner that is gone. -/
theorem reborn_not_owned :
    Reachable ⟨rebornSession.world, [rebornOutpost, outpost]⟩ ∧
      rebornSession.world.trees.get? "outpost" = some rebornOutpost ∧
      rebornOutpost.metadata.uid = some "uid-2" ∧
      rebornOutpost.metadata.deletionTimestamp = none ∧
      rebornPass.1 = .ok .awaitChange ∧
      ∃ b ∈ rebornPass.2.bindingsOf "outpost", b.key = outpostKey ∧
        b.metadata.owners = outpost.owners ∧ ¬b.ControlledBy "uid-2" := by
  have hreach : Reachable ⟨rebornSession.world, [rebornOutpost, outpost]⟩ :=
    outpostSession_reachable.session_after (by decide)
  exact ⟨hreach, rfl, rfl, rfl, rfl, by decide⟩

end Chronicle

end FolderGrants
