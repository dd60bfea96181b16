import FolderGrants.Proofs.SafeFailures
import FolderGrants.Proofs.Writes

/-!
# What a made change has done

A change touches one key.  If it succeeds on a server that tells the truth,
the cluster behind the server has a new binding there, or has none there any
more, or was left alone because a namespace or a binding is missing.  Every
other key holds what it held before.

* `Change.About` — what a change touches;
* `Change.Made` — what a change that succeeds has done, and `made_of_apply`;
* `Change.Made.get?_of_ne` — it has done nothing elsewhere;
* `Change.Done.of_creation`, `Change.Done.of_renewal`, `Change.Done.of_removal` —
  what a change of each kind has done;
* `Change.chain_of_applyAll` — changes that succeed were made one by one;
* `Change.done_of_applyAll` — and of changes that do not all succeed, the first
  ones.
-/

namespace FolderGrants

namespace Change

/-- The key at which a change is made. -/
def key (c : Change) : BindingKey := ⟨c.ns, c.bindingName⟩

/-- All that a change touches is at `k`. -/
structure About (c : Change) (k : BindingKey) : Prop where
  key : c.key = k
  written : ∀ b, c.written? = some b → b.key = k

variable {k : BindingKey} {template : String}

/-- A creation is about the key of the binding that it creates. -/
theorem creation_about {desired : Binding} (h : desired.key = k) :
    (creation k template desired).About k := by
  refine ⟨?_, fun b hb => ?_⟩
  · subst h
    rfl
  · obtain rfl := Option.some.inj hb
    exact h

/-- A renewal is about the key that the two bindings share. -/
theorem renewal_about {existing desired : Binding} (hexisting : existing.key = k)
    (hdesired : desired.key = k) : (renewal k template existing desired).About k := by
  refine ⟨?_, fun b hb => ?_⟩
  · subst hdesired
    rfl
  · obtain rfl := Option.some.inj hb
    exact hexisting

/-- A removal is about the key of what it removes. -/
theorem removal_about {held : Held} (h : held.binding.key = k) : (removal k held).About k := by
  refine ⟨?_, fun b hb => ?_⟩
  · subst h
    rfl
  · cases hb

end Change

/-- What a required key calls for is done at that key. -/
theorem CallsFor.about {k : BindingKey} {g : Grant} {held? : Option Held} {changes : List Change}
    (h : CallsFor k g held? changes) (hheld : ∀ held, held? = some held → held.binding.key = k)
    (hg : g.binding.key = k) {c : Change} (hc : c ∈ changes) : c.About k := by
  cases h with
  | create =>
      obtain rfl := List.mem_singleton.1 hc
      exact Change.creation_about hg
  | recreate =>
      rcases List.mem_cons.1 hc with hremoval | hcreation
      · obtain rfl := hremoval
        exact Change.removal_about (hheld _ rfl)
      · obtain rfl := List.mem_singleton.1 hcreation
        exact Change.creation_about hg
  | renew =>
      obtain rfl := List.mem_singleton.1 hc
      exact Change.renewal_about (hheld _ rfl) hg
  | keep => cases hc

/-- A change that is due is done at one key. -/
theorem Change.Due.about {desired : DesiredSet} {baseline : Baseline} {c : Change}
    (h : c.Due desired baseline) (hdesired : desired.Keyed) (hbaseline : baseline.Keyed) :
    ∃ k, c.About k := by
  cases h with
  | creation hg _ => exact ⟨_, Change.creation_about (hdesired _ _ hg)⟩
  | renewal hg hheld _ _ =>
      exact ⟨_, Change.renewal_about (hbaseline _ _ hheld) (hdesired _ _ hg)⟩
  | removal hheld _ => exact ⟨_, Change.removal_about (hbaseline _ _ hheld)⟩

namespace Change

/-- What a change that succeeds with the given outcome has done. -/
inductive Made (c : Change) (K : Cluster) : Outcome → Cluster → Prop
  | created {b : Binding} (hkind : c.kind = .create) (hwritten : c.written? = some b)
      (hns : K.hasNamespace c.ns = true) (habsent : K.bindings.get? b.key = none) :
      Made c K .created (K.putBinding b)
  | skipped (hkind : c.kind = .create) (hns : K.hasNamespace c.ns = false) : Made c K .skipped K
  | updated {b : Binding} (hkind : c.kind = .update) (hwritten : c.written? = some b)
      (hthere : ∃ held, K.bindings.get? b.key = some held) : Made c K .updated (K.putBinding b)
  | deleted (hkind : c.kind = .delete) : Made c K .deleted (K.removeBinding c.key)
  /-- The server says that there is nothing to delete. -/
  | missing (hkind : c.kind = .delete) : Made c K .deleted K

variable {σ : Type} {api : Api σ} {cluster : σ → Cluster} {c : Change} {s s' : σ} {o : Outcome}

/-- A change that is applied without a fault has been made. -/
theorem made_of_apply (htrue : api.Truthful cluster) (h : c.apply api s = (.ok o, s')) :
    c.Made (cluster s) o (cluster s') := by
  obtain ⟨kind, ns, template, existing, desired⟩ := c
  cases kind with
  | create =>
      cases desired with
      | none => exact absurd h Action.throw_ne_ok
      | some b =>
          obtain ⟨found, mid, hask, hrest⟩ := Action.bind_eq_ok_iff.1 h
          obtain ⟨hfound, hmid⟩ := Action.outcome_eq_iff.1 (htrue.namespaceExists ns _ _ _ hask)
          have hns : (cluster s).hasNamespace ns = found := Except.ok.inj hfound
          cases found with
          | false =>
              obtain ⟨rfl, rfl⟩ := Action.pure_eq_ok_iff.1 hrest
              rw [← hmid]
              exact .skipped rfl hns
          | true =>
              obtain ⟨mid', hcreate, hdone⟩ := Action.seq_eq_ok_iff.1 hrest
              obtain ⟨rfl, rfl⟩ := Action.pure_eq_ok_iff.1 hdone
              have hput := htrue.create b _ _ _ hcreate
              rw [← hmid] at hput
              obtain ⟨habsent, hcluster⟩ := Cluster.create_eq_ok_iff.1 hput
              rw [hcluster]
              exact .created rfl rfl hns habsent
  | update =>
      cases existing with
      | none => exact absurd h Action.throw_ne_ok
      | some held =>
          cases desired with
          | none => exact absurd h Action.throw_ne_ok
          | some b =>
              obtain ⟨mid, hreplace, hdone⟩ := Action.seq_eq_ok_iff.1 h
              obtain ⟨rfl, rfl⟩ := Action.pure_eq_ok_iff.1 hdone
              have hput := htrue.replace _ _ _ _ hreplace
              obtain ⟨hthere, hcluster⟩ := Cluster.replace_eq_ok_iff.1 hput
              rw [hcluster]
              exact .updated rfl rfl hthere
  | delete =>
      obtain ⟨mid, hdelete, hdone⟩ := Action.seq_eq_ok_iff.1 h
      obtain ⟨rfl, rfl⟩ := Action.pure_eq_ok_iff.1 hdone
      rcases Action.forgiving_eq_ok_iff.1 hdelete with hdeleted | ⟨f, hfailed, -⟩
      · obtain ⟨-, hcluster⟩ := Cluster.delete_eq_ok_iff.1 (htrue.delete _ _ _ _ hdeleted)
        rw [hcluster]
        exact .deleted rfl
      · rcases htrue.failed _ _ _ _ hfailed with hstill | hgone
        · rw [hstill]
          exact .missing rfl
        · rw [hgone]
          exact .deleted rfl

/-- A change that fails has done nothing. -/
theorem undone_of_apply {f : Fault} (hsafe : api.FailsSafely cluster)
    (h : c.apply api s = (.error f, s')) : cluster s' = cluster s := by
  have hthrow : ∀ f', (throw f' : Action σ Outcome) s = (.error f, s') → s' = s := by
    intro f' hf
    exact (congrArg Prod.snd hf).symm
  have hpure : ∀ (o : Outcome) mid, (pure o : Action σ Outcome) mid ≠ (.error f, s') := by
    intro o mid hf
    cases congrArg Prod.fst hf
  obtain ⟨kind, ns, template, existing, desired⟩ := c
  cases kind with
  | create =>
      cases desired with
      | none => rw [hthrow _ h]
      | some b =>
          rcases Action.bind_eq_error_iff.1 h with hask | ⟨found, mid, hask, hrest⟩
          · exact (hsafe.namespaceExists ns).error hask
          · obtain ⟨-, hmid⟩ := Action.outcome_eq_iff.1 ((hsafe.namespaceExists ns).ok hask)
            cases found with
            | false => exact absurd hrest (hpure _ _)
            | true =>
                rcases Action.bind_eq_error_iff.1 hrest with hcreate | ⟨_, _, -, hdone⟩
                · exact ((hsafe.create b).error hcreate).trans hmid.symm
                · exact absurd hdone (hpure _ _)
  | update =>
      cases existing with
      | none => rw [hthrow _ h]
      | some held =>
          cases desired with
          | none => rw [hthrow _ h]
          | some b =>
              rcases Action.bind_eq_error_iff.1 h with hreplace | ⟨_, _, -, hdone⟩
              · exact (hsafe.replace _).error hreplace
              · exact absurd hdone (hpure _ _)
  | delete =>
      rcases Action.bind_eq_error_iff.1 h with hdelete | ⟨_, _, -, hdone⟩
      · exact (hsafe.delete _).error (Action.forgiving_eq_error_iff.1 hdelete).1
      · exact absurd hdone (hpure _ _)

/-- Where deletions are honest, a deletion that succeeds leaves nothing. -/
theorem absent_of_apply (htrue : api.Truthful cluster) (hhonest : api.DeletesHonestly cluster)
    (hkind : c.kind = .delete) (h : c.apply api s = (.ok o, s')) :
    (cluster s').bindings.get? c.key = none := by
  obtain ⟨kind, ns, template, existing, desired⟩ := c
  obtain rfl := hkind
  obtain ⟨mid, hdelete, hdone⟩ := Action.seq_eq_ok_iff.1 h
  obtain ⟨-, rfl⟩ := Action.pure_eq_ok_iff.1 hdone
  rcases Action.forgiving_eq_ok_iff.1 hdelete with hdeleted | ⟨f, hfailed, hmissing⟩
  · obtain ⟨-, hcluster⟩ := Cluster.delete_eq_ok_iff.1 (htrue.delete _ _ _ _ hdeleted)
    rw [hcluster]
    exact Cluster.get?_removeBinding_self _ _
  · rcases htrue.failed _ _ _ _ hfailed with hstill | hgone
    · rw [hstill]
      exact hhonest _ _ _ _ hfailed hmissing
    · rw [hgone]
      exact Cluster.get?_removeBinding_self _ _

namespace Made

variable {K K' : Cluster}

/-- A change leaves the namespaces as they are. -/
theorem namespaces_eq (h : c.Made K o K') : K'.namespaces = K.namespaces := by
  cases h <;> rfl

/-- A change does nothing at other keys. -/
theorem get?_of_ne {k k' : BindingKey} (h : c.Made K o K') (hc : c.About k') (hne : k ≠ k') :
    K'.bindings.get? k = K.bindings.get? k := by
  cases h with
  | created _ hwritten =>
      have hkey := hc.written _ hwritten
      exact Cluster.get?_putBinding_of_ne _ (hkey ▸ hne)
  | skipped => rfl
  | updated _ hwritten =>
      have hkey := hc.written _ hwritten
      exact Cluster.get?_putBinding_of_ne _ (hkey ▸ hne)
  | deleted => exact Cluster.get?_removeBinding_of_ne _ (hc.key ▸ hne)
  | missing => rfl

end Made

/-- Changes that all succeed were made one by one. -/
theorem chain_of_applyAll {changes : List Change} {summary total : Summary}
    (h : applyAll api changes summary s = (.ok total, s')) :
    Chain (fun c s s' => ∃ o, c.apply api s = (.ok o, s')) changes s s' := by
  induction changes generalizing s summary with
  | nil =>
      obtain ⟨-, rfl⟩ := Action.pure_eq_ok_iff.1 h
      exact .nil s
  | cons c rest ih =>
      obtain ⟨o, mid, hhead, htail⟩ := Action.bind_eq_ok_iff.1 h
      exact .cons ⟨o, hhead⟩ (ih htail)

/-- The change has been made, with some outcome. -/
def Done (c : Change) (K K' : Cluster) : Prop := ∃ o, c.Made K o K'

/-- A creation has found its key empty, or no namespace. -/
theorem Done.of_creation {K K' : Cluster} {k : BindingKey} {template : String} {b : Binding}
    (h : (creation k template b).Done K K') :
    K.hasNamespace k.ns = true ∧ K.bindings.get? b.key = none ∧ K' = K.putBinding b ∨
      K.hasNamespace k.ns = false ∧ K' = K := by
  obtain ⟨o, hmade⟩ := h
  cases hmade with
  | created _ hwritten hns habsent =>
      obtain rfl := Option.some.inj hwritten
      exact .inl ⟨hns, habsent, rfl⟩
  | skipped _ hns => exact .inr ⟨hns, rfl⟩
  | updated hkind => cases hkind
  | deleted hkind => cases hkind
  | missing hkind => cases hkind

/-- A renewal that is done stored the refreshed binding. -/
theorem Done.of_renewal {K K' : Cluster} {k : BindingKey} {template : String}
    {existing b : Binding} (h : (renewal k template existing b).Done K K') :
    K' = K.putBinding (existing.refreshed b) := by
  obtain ⟨o, hmade⟩ := h
  cases hmade with
  | created hkind => cases hkind
  | skipped hkind => cases hkind
  | updated _ hwritten =>
      obtain rfl := Option.some.inj hwritten
      rfl
  | deleted hkind => cases hkind
  | missing hkind => cases hkind

/-- A removal may have been stepped over. -/
theorem Done.of_removal {K K' : Cluster} {k : BindingKey} {held : Held}
    (hkey : held.binding.key = k) (h : (removal k held).Done K K') :
    K' = K.removeBinding k ∨ K' = K := by
  obtain ⟨o, hmade⟩ := h
  cases hmade with
  | created hkind => cases hkind
  | skipped hkind => cases hkind
  | updated hkind => cases hkind
  | deleted => exact .inl (by rw [(removal_about hkey).key])
  | missing => exact .inr rfl

/-- Whatever comes of a list of changes, the first of them have been made, and
nothing else has been done. -/
theorem done_of_applyAll (hsafe : api.FailsSafely cluster) {changes : List Change}
    {summary : Summary} {x : Except Fault Summary}
    (h : applyAll api changes summary s = (x, s')) :
    ∃ first rest, changes = first ++ rest ∧ Chain Done first (cluster s) (cluster s') := by
  induction changes generalizing s summary with
  | nil =>
      obtain rfl : s = s' := congrArg Prod.snd h
      exact ⟨[], [], rfl, .nil _⟩
  | cons c rest ih =>
      rw [applyAll, Action.bind_run] at h
      rcases hhead : c.apply api s with ⟨f | o, mid⟩
      · rw [hhead] at h
        obtain ⟨-, rfl⟩ := Action.outcome_eq_iff.1 h
        exact ⟨[], c :: rest, rfl, Chain.nil_iff.2 (undone_of_apply hsafe hhead).symm⟩
      · rw [hhead] at h
        obtain ⟨first, rest', rfl, htail⟩ := ih h
        exact ⟨c :: first, rest', rfl, .cons ⟨o, made_of_apply hsafe.truthful hhead⟩ htail⟩

variable {changes : List Change} {K K' : Cluster} {k : BindingKey}

/-- Changes that are done one after the other leave the namespaces as they are. -/
theorem namespaces_of_done (h : Chain Done changes K K') : K'.namespaces = K.namespaces := by
  refine h.keeps (P := fun K₁ => K₁.namespaces = K.namespaces) ?_ rfl
  intro c _ K₁ K₂ hstep hK₁
  obtain ⟨o, hmade⟩ := hstep
  exact hmade.namespaces_eq.trans hK₁

/-- Changes at other keys leave a key as it is. -/
theorem get?_of_done (h : Chain Done changes K K')
    (hother : ∀ c ∈ changes, ∃ k', c.About k' ∧ k ≠ k') :
    K'.bindings.get? k = K.bindings.get? k := by
  refine h.keeps (P := fun K₁ => K₁.bindings.get? k = K.bindings.get? k) ?_ rfl
  intro c hc K₁ K₂ hstep hK₁
  obtain ⟨o, hmade⟩ := hstep
  obtain ⟨k', habout, hne⟩ := hother c hc
  exact (hmade.get?_of_ne habout hne).trans hK₁

end Change

end FolderGrants
