import FolderGrants.Pass.Basic
import FolderGrants.Proofs.Actions
import FolderGrants.Proofs.Writes

/-!
# What passes keep

A pass touches the world through its calls alone, so it keeps whatever each of
its calls keeps, however they are answered and wherever the pass stops.  Which
calls there are is settled by the list of changes, and that list is settled
before anything is changed.

* `Change.keeps_apply`, `Change.keeps_creation`, `Change.keeps_applyAll` — from calls
  to changes;
* `FolderTree.reconcile_of_ok`, `FolderTree.reconcile_of_error` — how a pass ends;
* `FolderTree.syncBindings_ends`, `FolderTree.reconcile_ends` — from changes to
  a pass from a given state;
* `FolderTree.keeps_syncBindings`, `FolderTree.keeps_reconcile` — to a pass from
  any state.
-/

namespace FolderGrants

variable {σ : Type} {api : Api σ} {I : σ → Prop}

namespace Change

/-- A change keeps what each of the calls keeps that it may make. -/
theorem keeps_apply {c : Change} (hask : ∀ ns, (api.namespaceExists ns).Keeps I)
    (hcreate : ∀ b, c.kind = .create → c.written? = some b → (api.create b).Keeps I)
    (hreplace : ∀ b, c.kind = .update → c.written? = some b → (api.replace b).Keeps I)
    (hdelete : c.kind = .delete → (api.delete ⟨c.ns, c.bindingName⟩).Keeps I) :
    (c.apply api).Keeps I := by
  obtain ⟨kind, ns, template, existing, desired⟩ := c
  cases kind with
  | create =>
      cases desired with
      | none => exact Action.keeps_throw _
      | some b =>
          refine (hask ns).bind fun _ found _ _ _ => ?_
          cases found with
          | false => exact Action.keeps_pure _
          | true => exact (hcreate b rfl rfl).bind fun _ _ _ _ _ => Action.keeps_pure _
  | update =>
      cases existing with
      | none => exact Action.keeps_throw _
      | some held =>
          cases desired with
          | none => exact Action.keeps_throw _
          | some b => exact (hreplace _ rfl rfl).bind fun _ _ _ _ _ => Action.keeps_pure _
  | delete =>
      have hforgiven := (hdelete rfl).forgiving Fault.isNotFound
      exact hforgiven.bind fun _ _ _ _ _ => Action.keeps_pure _

/-- A creation is only made if its namespace has been found. -/
theorem keeps_creation {k : BindingKey} {template : String} {b : Binding}
    (hask : (api.namespaceExists k.ns).Keeps I)
    (hcreate : ∀ s mid, I s → api.namespaceExists k.ns s = (.ok true, mid) →
      (api.create b).Keeps I) : ((creation k template b).apply api).Keeps I := by
  refine hask.bind fun s found mid hs hrun => ?_
  cases found with
  | false => exact Action.keeps_pure _
  | true => exact (hcreate s mid hs hrun).bind fun _ _ _ _ _ => Action.keeps_pure _

/-- A list of changes keeps what each of them keeps. -/
theorem keeps_applyAll {changes : List Change} (h : ∀ c ∈ changes, (c.apply api).Keeps I)
    (summary : Summary) : (applyAll api changes summary).Keeps I := by
  induction changes generalizing summary with
  | nil => exact Action.keeps_pure _
  | cons c rest ih =>
      have hrest : ∀ c' ∈ rest, (c'.apply api).Keeps I :=
        fun c' hc' => h c' (List.mem_cons_of_mem _ hc')
      exact (h c List.mem_cons_self).bind fun _ o _ _ _ => ih hrest (summary.count o)

end Change

namespace FolderTree

variable {t : FolderTree}

/-- The changes need only be looked at for what is listed from `s`. -/
theorem syncBindings_ends {s : σ} (hs : I s)
    (hlist : ∀ x mid, api.list t.name s = (x, mid) → I mid)
    (hchanges : ∀ desired live mid, t.ownedDesired = .ok desired →
      api.list t.name s = (.ok live, mid) →
        ∀ c ∈ desired.changesFrom (.ofBindings live), (c.apply api).Keeps I) :
    I (t.syncBindings api s).2 := by
  rw [syncBindings, Action.bind_run]
  cases hdesired : t.ownedDesired with
  | error c => exact hs
  | ok desired =>
      show I ((api.list t.name >>= fun live =>
        Change.applyAll api (desired.changesFrom (.ofBindings live)) {}) s).2
      rw [Action.bind_run]
      rcases hrun : api.list t.name s with ⟨f | live, mid⟩
      · exact hlist _ _ hrun
      · have hmid : I mid := hlist _ _ hrun
        exact Change.keeps_applyAll (hchanges desired live mid hdesired hrun) _ mid hmid

/-- The changes need only be looked at for what can have been listed. -/
theorem keeps_syncBindings (hlist : (api.list t.name).Keeps I)
    (hchanges : ∀ desired live s s', t.ownedDesired = .ok desired → I s →
      api.list t.name s = (.ok live, s') →
        ∀ c ∈ desired.changesFrom (.ofBindings live), (c.apply api).Keeps I) :
    (t.syncBindings api).Keeps I := fun s hs =>
  syncBindings_ends hs (fun _ _ hrun => hlist.run hrun hs) fun desired live mid hdesired hrun =>
    hchanges desired live s mid hdesired hs hrun

/-- What every call on bindings keeps, a pass over the bindings keeps. -/
theorem keeps_syncBindings_of_calls (hlist : ∀ tree, (api.list tree).Keeps I)
    (hask : ∀ ns, (api.namespaceExists ns).Keeps I) (hcreate : ∀ b, (api.create b).Keeps I)
    (hreplace : ∀ b, (api.replace b).Keeps I) (hdelete : ∀ key, (api.delete key).Keeps I)
    (t : FolderTree) : (t.syncBindings api).Keeps I := by
  refine keeps_syncBindings (hlist t.name) ?_
  intro _ _ _ _ _ _ _ c _
  exact Change.keeps_apply hask (fun b _ _ => hcreate b) (fun b _ _ => hreplace b)
    fun _ => hdelete _

/-- To record a condition keeps what the status call keeps. -/
theorem keeps_recordCondition (hpatch : ∀ status, (api.patchStatus t.name status).Keeps I)
    (c : Condition) (replaced : String) : (t.recordCondition api c replaced).Keeps I := by
  unfold recordCondition
  by_cases hsame : t.status = some (t.statusWith c replaced)
  · rw [if_pos hsame]
    exact Action.keeps_pure _
  · rw [if_neg hsame]
    exact hpatch _

/-- After changes that succeed, a pass ends as the recording of its success does. -/
theorem reconcile_of_ok {s mid s' : σ} {summary : Summary} {x : Except Fault Unit}
    (hlive : t.metadata.deletionTimestamp = none) (now : Instant)
    (hsync : t.syncBindings api s = (.ok summary, mid))
    (hrecord : t.recordCondition api (.ofSuccess now) Condition.processingFailed mid = (x, s')) :
    t.reconcile api now s = (x.map fun _ => .awaitChange, s') := by
  have halive : ¬t.metadata.deletionTimestamp.isSome = true := by simp [hlive]
  simp only [reconcile, if_neg halive, hsync, hrecord]
  cases x <;> rfl

/-- After changes that fail, a pass fails with their fault, however its recording
goes. -/
theorem reconcile_of_error {s mid s' : σ} {f : Fault} {x : Except Fault Unit}
    (hlive : t.metadata.deletionTimestamp = none) (now : Instant)
    (hsync : t.syncBindings api s = (.error f, mid))
    (hrecord : t.recordCondition api (.ofFault now f) Condition.ready mid = (x, s')) :
    t.reconcile api now s = (.error f, s') := by
  have halive : ¬t.metadata.deletionTimestamp.isSome = true := by simp [hlive]
  simp only [reconcile, if_neg halive, hsync, hrecord]

/-- A tree that is being deleted is left alone; otherwise changes are made, and
how that went is recorded. -/
theorem reconcile_ends {s : σ} (hs : I s) (hsync : I (t.syncBindings api s).2)
    (hpatch : ∀ status, (api.patchStatus t.name status).Keeps I) (now : Instant) :
    I (t.reconcile api now s).2 := by
  have hrecord : ∀ c replaced mid x s', I mid → t.recordCondition api c replaced mid = (x, s') →
      I s' := fun c replaced _ _ _ hmid hrun =>
    (keeps_recordCondition hpatch c replaced).run hrun hmid
  cases hlive : t.metadata.deletionTimestamp with
  | some deleted =>
      rw [reconcile, hlive]
      exact hs
  | none =>
      rcases hrun : t.syncBindings api s with ⟨f | summary, mid⟩
      · rcases hend : t.recordCondition api (.ofFault now f) Condition.ready mid with ⟨x, s'⟩
        rw [reconcile_of_error hlive now hrun hend]
        exact hrecord _ _ _ _ _ (by simpa [hrun] using hsync) hend
      · rcases hend : t.recordCondition api (.ofSuccess now) Condition.processingFailed mid with
          ⟨x, s'⟩
        rw [reconcile_of_ok hlive now hrun hend]
        exact hrecord _ _ _ _ _ (by simpa [hrun] using hsync) hend

/-- A pass keeps what its synchronisation and the status call keep. -/
theorem keeps_reconcile (hsync : (t.syncBindings api).Keeps I)
    (hpatch : ∀ status, (api.patchStatus t.name status).Keeps I) (now : Instant) :
    (t.reconcile api now).Keeps I := fun s hs => reconcile_ends hs (hsync s hs) hpatch now

end FolderTree

end FolderGrants
