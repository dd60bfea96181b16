import FolderGrants.Proofs.Convergence
import FolderGrants.Proofs.RecordedCalls

/-!
# What a pass takes away

A pass lists the bindings that carry the label of its tree and deletes those
whose role no folder asks for at their key, whatever else is wrong with them.
What it writes are bindings that some folder asks for.  The server may fail at
any call, also after it has done what was asked, and leave bindings out of a
list, as long as it does not make up bindings of the tree by itself.

* `Api.AddsOnlySent` — a server that makes up no bindings;
* `FolderTree.Asks` — when the tree asks for the role of a binding at its key;
* `FolderTree.Accounted` — every binding of the tree is asked for or may be
  revoked, and only what may be revoked was deleted;
* `FolderTree.reconcile_keeps_accounted` — passes keep this.
-/

namespace FolderGrants

section Servers

variable {σ ρ α : Type}

/-- After `a` no binding carries the label of the tree that did not before, other
than the one that is sent. -/
def Action.AddsOnly (cluster : σ → Cluster) (tree : String) (sent : Option Binding)
    (a : Action σ α) : Prop :=
  ∀ s, ∀ b ∈ (cluster (a s).2).bindingsOf tree, b ∈ (cluster s).bindingsOf tree ∨ sent = some b

/-- A server that lists only bindings that are there, and adds none that carries
the label of the tree but what is sent.  A call may fail, before it is carried
out or after. -/
structure Api.AddsOnlySent (api : Api σ) (cluster : σ → Cluster) (tree : String) : Prop where
  listed : ∀ s live s', api.list tree s = (.ok live, s') →
    ∀ b ∈ live, b ∈ (cluster s).bindingsOf tree
  list : (api.list tree).AddsOnly cluster tree none
  namespaceExists : ∀ ns, (api.namespaceExists ns).AddsOnly cluster tree none
  create : ∀ b, (api.create b).AddsOnly cluster tree (some b)
  replace : ∀ b, (api.replace b).AddsOnly cluster tree (some b)
  delete : ∀ key, (api.delete key).AddsOnly cluster tree none
  patchStatus : ∀ name status, (api.patchStatus name status).AddsOnly cluster tree none

/-- What fails does nothing, and what succeeds adds what the ideal call adds. -/
theorem Action.Follows.addsOnly {view : σ → Cluster} {tree : String} {sent : Option Binding}
    {a : Action σ α} {ideal : Action Cluster α} (h : a.Follows view ideal)
    (hideal : ideal.AddsOnly id tree sent) : a.AddsOnly view tree sent := by
  intro s b hb
  rcases hrun : a s with ⟨f | x, s'⟩
  · rw [hrun] at hb
    exact .inl (h.error hrun ▸ hb)
  · rw [hrun] at hb
    have hadds := hideal (view s) b
    rw [h.ok hrun] at hadds
    exact hadds hb

namespace Cluster

variable {K : Cluster} {tree : String} {b b' : Binding} {key : BindingKey}

/-- After a binding has been stored, a tree has it and what it had. -/
theorem mem_bindingsOf_putBinding (h : b ∈ (K.putBinding b').bindingsOf tree) :
    b ∈ K.bindingsOf tree ∨ b' = b := by
  obtain ⟨⟨k, hk⟩, htree⟩ := mem_bindingsOf_iff.1 h
  by_cases hkey : k = b'.key
  · subst hkey
    rw [get?_putBinding_self] at hk
    exact .inr (Option.some.inj hk)
  · rw [get?_putBinding_of_ne K hkey] at hk
    exact .inl (mem_bindingsOf_iff.2 ⟨⟨k, hk⟩, htree⟩)

/-- After a removal a tree has only what it had. -/
theorem mem_bindingsOf_removeBinding (h : b ∈ (K.removeBinding key).bindingsOf tree) :
    b ∈ K.bindingsOf tree := by
  obtain ⟨⟨k, hk⟩, htree⟩ := mem_bindingsOf_iff.1 h
  by_cases hkey : k = key
  · subst hkey
    rw [get?_removeBinding_self] at hk
    cases hk
  · rw [get?_removeBinding_of_ne K hkey] at hk
    exact mem_bindingsOf_iff.2 ⟨⟨k, hk⟩, htree⟩

/-- What a call on one binding adds is what its effect adds. -/
theorem addsOnly_of_conditional {a : Action Cluster Unit} {ready : Cluster → Prop}
    {effect : Cluster → Cluster} {sent : Option Binding} (h : a.Conditional ready effect)
    (heffect : ∀ K, ∀ b ∈ (effect K).bindingsOf tree, b ∈ K.bindingsOf tree ∨ sent = some b) :
    a.AddsOnly id tree sent := fun K b =>
  h.keeps_at (P := fun K' => b ∈ K'.bindingsOf tree → b ∈ K.bindingsOf tree ∨ sent = some b)
    .inl fun _ => heffect K b

variable (tree)

/-- A creation adds the binding that is sent. -/
theorem create_addsOnly (title : BindingKey → String) (b : Binding) :
    (create title b).AddsOnly id tree (some b) :=
  addsOnly_of_conditional (create_conditional title b) fun _ _ h =>
    (mem_bindingsOf_putBinding h).imp_right (congrArg some)

/-- So does a replacement. -/
theorem replace_addsOnly (title : BindingKey → String) (b : Binding) :
    (replace title b).AddsOnly id tree (some b) :=
  addsOnly_of_conditional (replace_conditional title b) fun _ _ h =>
    (mem_bindingsOf_putBinding h).imp_right (congrArg some)

/-- A deletion adds nothing. -/
theorem delete_addsOnly (title : BindingKey → String) (key : BindingKey) :
    (delete title key).AddsOnly id tree none :=
  addsOnly_of_conditional (delete_conditional title key) fun _ _ h =>
    .inl (mem_bindingsOf_removeBinding h)

/-- Nor does a status. -/
theorem patchStatus_addsOnly (name : String) (status : Status) :
    (api.patchStatus name status).AddsOnly id tree none := by
  intro K b hb
  refine .inl ?_
  rw [mem_bindingsOf_iff] at hb ⊢
  simpa [api] using hb

end Cluster

/-- A server whose failures are safe makes up no bindings. -/
theorem Api.FailsSafely.addsOnlySent {api : Api σ} {cluster : σ → Cluster}
    (hsafe : api.FailsSafely cluster)
    (hstatus : ∀ name status,
      (api.patchStatus name status).Follows cluster (Cluster.api.patchStatus name status))
    (tree : String) : api.AddsOnlySent cluster tree where
  listed s live s' hlist b hb := by
    obtain ⟨hlive, -⟩ := Action.outcome_eq_iff.1 ((hsafe.list tree).ok hlist)
    obtain rfl := Except.ok.inj hlive
    exact hb
  list := (hsafe.list tree).addsOnly fun _ _ => .inl
  namespaceExists ns := (hsafe.namespaceExists ns).addsOnly fun _ _ => .inl
  create b := (hsafe.create b).addsOnly (Cluster.create_addsOnly tree _ b)
  replace b := (hsafe.replace b).addsOnly (Cluster.replace_addsOnly tree _ b)
  delete key := (hsafe.delete key).addsOnly (Cluster.delete_addsOnly tree _ key)
  patchStatus name status :=
    (hstatus name status).addsOnly (Cluster.patchStatus_addsOnly tree name status)

/-- Whatever the pattern of failures, a cluster makes up no bindings. -/
theorem Cluster.flaky_addsOnlySent (fails : Nat → Call → Option Fault) (tree : String) :
    (flaky fails).AddsOnlySent Prod.snd tree :=
  (flaky_failsSafely fails).addsOnlySent
    (fun _ _ => attempt_follows fun _ _ _ h => by simp [api] at h) tree

end Servers

namespace FolderTree

variable {ω α : Type} {api : Api ω} {cluster : ω → Cluster} {t v : FolderTree} {b : Binding}
  {Rev : BindingKey → Prop} {s s' : Scripted ω}

/-- Some folder asks for the role of `b` at the key of `b`. -/
def Asks (t : FolderTree) (b : Binding) : Prop :=
  ∃ e ∈ t.spec.emissions, e.key (.unowned t) = b.key ∧ e.template.roleRef = b.roleRef

/-- A tree that restates another one asks for the same. -/
theorem Restates.asks_iff (h : t.Restates v) : t.Asks b ↔ v.Asks b := by
  obtain ⟨hname, hspec⟩ := h
  rw [Asks, Asks, Builder.unowned, Builder.unowned, hname, hspec]

/-- What a tree asks for can be told from its desired set, whoever is to own the
bindings. -/
theorem asks_iff_of_desired {builder : Builder} {set : DesiredSet} (h : t.desired builder = .ok set)
    (htree : builder.tree = t.name) :
    t.Asks b ↔ ∃ g, set.get? b.key = some g ∧ g.binding.roleRef = b.roleRef := by
  have hset := desired_eq_ok_iff.1 h
  have hkey : ∀ e : Emission, e.key (.unowned t) = e.key builder := by
    intro e
    rw [Emission.key, Emission.key, htree]
    rfl
  constructor
  · intro hasks
    obtain ⟨e, he, hb, hrole⟩ := hasks
    obtain ⟨g, hg, hsame⟩ := hset.exists_grant he
    obtain ⟨e', -, -, rfl⟩ := hset.exists_emission hg
    rw [hkey] at hb
    exact ⟨_, hb ▸ hg, ((Template.sameGrant_iff _ _).1 hsame).1.trans hrole⟩
  · intro hheld
    obtain ⟨g, hg, hrole⟩ := hheld
    obtain ⟨e, he, hb, rfl⟩ := hset.exists_emission hg
    exact ⟨e, he, (hkey e).trans hb, hrole⟩

/-- Every binding of the tree is asked for or may be revoked, and what was
deleted might be revoked. -/
structure Accounted (t : FolderTree) (cluster : ω → Cluster) (Rev : BindingKey → Prop)
    (s : Scripted ω) : Prop where
  bindings : ∀ b ∈ (cluster s.world).bindingsOf t.name, Rev b.key ∨ t.Asks b
  deletions : ∀ r ∈ s.log, ∀ key, r.call.deleted? = some key → Rev key

/-- A call keeps this if what it sends is asked for and what it deletes may be
revoked. -/
theorem keeps_accounted_perform {c : Call} {a : Action ω α} {sent : Option Binding}
    (ha : a.AddsOnly cluster t.name sent) (hsent : ∀ b, sent = some b → t.Asks b)
    (hdelete : ∀ key, c.deleted? = some key → Rev key) :
    (Scripted.perform c a).Keeps (t.Accounted cluster Rev) := by
  intro s hs
  refine ⟨fun b hb => ?_, fun r hr key hkey => ?_⟩
  · rcases Scripted.world_perform c a s with hworld | hworld
    · exact hs.bindings b (hworld ▸ hb)
    · rw [hworld] at hb
      rcases ha s.world b hb with hold | hnew
      · exact hs.bindings b hold
      · exact .inr (hsent b hnew)
  · obtain ⟨fault, hlog⟩ := Scripted.log_perform c a s
    rw [hlog] at hr
    rcases List.mem_cons.1 hr with rfl | hold
    · exact hdelete key hkey
    · exact hs.deletions r hold key hkey

/-- A call that neither sends nor deletes anything. -/
theorem keeps_accounted_silent {c : Call} {a : Action ω α} (ha : a.AddsOnly cluster t.name none)
    (hsilent : c.deleted? = none) : (Scripted.perform c a).Keeps (t.Accounted cluster Rev) :=
  keeps_accounted_perform ha (fun _ hb => by cases hb) fun _ hkey => by
    rw [hsilent] at hkey
    cases hkey

/-- A call that sends one binding. -/
theorem keeps_accounted_sending {c : Call} {a : Action ω α}
    (ha : a.AddsOnly cluster t.name (some b)) (hb : t.Asks b) (hkept : c.deleted? = none) :
    (Scripted.perform c a).Keeps (t.Accounted cluster Rev) :=
  keeps_accounted_perform ha (fun _ hsent => Option.some.inj hsent ▸ hb) fun _ hkey => by
    rw [hkept] at hkey
    cases hkey

/-- A call that deletes what may be revoked. -/
theorem keeps_accounted_deleting {key : BindingKey} {a : Action ω α}
    (ha : a.AddsOnly cluster t.name none) (hkey : Rev key) :
    (Scripted.perform (.delete key) a).Keeps (t.Accounted cluster Rev) :=
  keeps_accounted_perform ha (fun _ hb => by cases hb) fun _ hdeleted =>
    Option.some.inj hdeleted ▸ hkey

/-- What a pass deletes it has listed, and no folder asks for its role there. -/
theorem exists_listed_of_delete {desired : DesiredSet} {live : List Binding} {c : Change}
    (hdesired : t.ownedDesired = .ok desired)
    (hc : c ∈ desired.changesFrom (.ofBindings live)) (hkind : c.kind = .delete) :
    ∃ b ∈ live, b.key = c.key ∧ ¬t.Asks b := by
  cases DesiredSet.mem_changesFrom_iff_due.1 hc with
  | creation => cases hkind
  | renewal => cases hkind
  | @removal k held hheld hrole =>
      obtain ⟨hb, hkey⟩ := Baseline.mem_of_get?_ofBindings hheld
      refine ⟨held.binding, hb, hkey.trans (Change.removal_about hkey).key.symm, fun hasks => ?_⟩
      obtain ⟨g, hg, hsame⟩ := (asks_iff_of_desired hdesired rfl).1 hasks
      exact hrole g (hkey ▸ hg) hsame.symm

/-- What a listed change writes is asked for. -/
theorem asks_of_written {desired : DesiredSet} {live : List Binding} {c : Change}
    (hdesired : t.ownedDesired = .ok desired)
    (hc : c ∈ desired.changesFrom (.ofBindings live)) (hb : c.written? = some b) : t.Asks b := by
  obtain ⟨g, hg, hserves⟩ := DesiredSet.serves_of_written (desired_keyed hdesired)
    (Baseline.ofBindings_keyed live) hc hb
  exact (asks_iff_of_desired hdesired rfl).2 ⟨g, hg, hserves.roleRef.symm⟩

/-- **A pass deletes only what may be revoked**, if every binding of the tree that
it can find is asked for or may be revoked; and then this still holds after the
pass, whatever comes of it. -/
theorem reconcile_keeps_accounted (hapi : api.AddsOnlySent cluster t.name) (now : Instant) :
    (t.reconcile (Scripted.api api) now).Keeps (t.Accounted cluster Rev) := by
  refine keeps_reconcile (keeps_syncBindings (keeps_accounted_silent hapi.list rfl) ?_)
    (fun _ => keeps_accounted_silent (hapi.patchStatus _ _) rfl) now
  intro desired live s s' hdesired hs hlist c hc
  refine Change.keeps_apply (fun ns => keeps_accounted_silent (hapi.namespaceExists ns) rfl)
    ?_ ?_ ?_
  · intro b _ hb
    exact keeps_accounted_sending (hapi.create b) (asks_of_written hdesired hc hb) rfl
  · intro b _ hb
    exact keeps_accounted_sending (hapi.replace b) (asks_of_written hdesired hc hb) rfl
  · -- What is deleted was accounted for when it was listed, before any change.
    intro hkind
    have hlisted := hapi.listed _ _ _ (Scripted.run_of_perform_eq_ok hlist)
    obtain ⟨b, hb, hkey, hnot⟩ := exists_listed_of_delete hdesired hc hkind
    have hrevocable : Rev c.key := by
      rcases hs.bindings b (hlisted b hb) with hrevocable | hasks
      · exact hkey ▸ hrevocable
      · exact absurd hasks hnot
    exact keeps_accounted_deleting (hapi.delete _) hrevocable

end FolderTree

end FolderGrants
