import FolderGrants.Proofs.GrantCoverage
import FolderGrants.Proofs.PassDeletions

/-!
# Every revocation was tried out before

A history in which only passes write bindings with the label of one tree.  The
stored version may change many times before a pass gets through, passes may stop
anywhere, and the tree may be deleted and created anew, so a binding may outlive
the version that asked for it.  The invariant is that each binding with the label
is *covered*: the stored version asks for its role at its key, or its deletion
was tried out when some write took it away.

* `History.ControlledStep` — what can happen next;
* `Authority.asks_or_deletionTried` — what a write stops asking for it has tried
  to delete;
* `History.Covered` — the invariant, and `History.Covered.step`, which keeps it;
* `History.every_revocation_was_tried` — no pass deletes a binding whose deletion
  was not tried out before.
-/

namespace FolderGrants

namespace Authority

variable {ω : Type} {a : Authority ω} {r : Requester} {b : Binding} {x : ω} {s' : Scripted ω}

/-- What a version asks for its successor asks for too, or its deletion has been
tried out by a client of the requester. -/
theorem asks_or_deletionTried {old new : FolderTree}
    (h : a.recorded.checkWrite r (some old) new (.fresh x) = (.ok (), s')) (hb : old.Asks b) :
    new.Asks b ∨ AnsweredFor r s'.calls fun trials => DeletionTried trials b.key := by
  obtain ⟨changes, hchanges, htried⟩ := deletionTried_of_checkWrite h
  obtain ⟨before, after, hbefore, hafter, rfl⟩ :=
    FolderTree.changesFrom_some_eq_ok_iff.1 hchanges
  obtain ⟨g, hg, hrole⟩ := (FolderTree.asks_iff_of_desired hbefore rfl).1 hb
  -- If the new version does not ask for it, its removal is among the changes.
  by_cases hasks : new.Asks b
  · exact .inl hasks
  · have hheld := DesiredSet.get?_baseline_of_grant hg
    have hother : ∀ g', after.get? b.key = some g' → g.binding.roleRef ≠ g'.binding.roleRef := by
      intro g' hg' hsame
      exact hasks ((FolderTree.asks_iff_of_desired hafter rfl).2
        ⟨g', hg', hsame.symm.trans hrole⟩)
    have hlisted := DesiredSet.mem_changesFrom_iff_due.2 (.removal hheld hother)
    have hkey : (Change.removal b.key ⟨g.binding, g.template.name⟩).key = b.key :=
      (Change.removal_about (FolderTree.desired_keyed hbefore _ _ hg)).key
    exact .inr (hkey ▸ htried _ hlisted rfl)

/-- A requester who is not trusted has tried to delete whatever the tree asks for. -/
theorem deletionTried_of_asks {old : FolderTree} (htrust : a.trusts r.username = false)
    (h : a.recorded.checkDelete r old (.fresh x) = (.ok (), s')) (hb : old.Asks b) :
    AnsweredFor r s'.calls fun trials => DeletionTried trials b.key := by
  obtain ⟨desired, hdesired, htried⟩ := deletionTried_of_checkDelete htrust h
  obtain ⟨g, hg, -⟩ := (FolderTree.asks_iff_of_desired hdesired rfl).1 hb
  exact htried b.key (OrderedMap.mem_keys_iff.2 ⟨g, hg⟩)

end Authority

namespace History

variable {ω : Type}

/-- What can happen next to the tree called `name` while nobody else writes
bindings with its label.  A pass is made over what is stored, though that may
have been restated, and every pass has a server of its own, which may fail.
Requesters who delete the tree are not trusted. -/
inductive ControlledStep (name : String) (cluster : ω → Cluster) (h : History ω) :
    History ω → Prop
  | create {α : Type} (a : Authority α) (x : α) (r : Requester) {new : FolderTree}
      (hname : new.name = name) (hstored : h.stored = none) :
      ControlledStep name cluster h
        (h.afterWrite r (some new) (a.recorded.checkWrite r none new (.fresh x)))
  | update {α : Type} (a : Authority α) (x : α) (r : Requester) {v old new : FolderTree}
      (hname : new.name = name) (hstored : h.stored = some v) (hold : old.Restates v) :
      ControlledStep name cluster h
        (h.afterWrite r (some new) (a.recorded.checkWrite r (some old) new (.fresh x)))
  | delete {α : Type} (a : Authority α) (x : α) (r : Requester) {v old : FolderTree}
      (htrust : a.trusts r.username = false) (hstored : h.stored = some v)
      (hold : old.Restates v) :
      ControlledStep name cluster h
        (h.afterWrite r none (a.recorded.checkDelete r old (.fresh x)))
  | pass (api : Api ω) (now : Instant) {v t : FolderTree}
      (hapi : api.AddsOnlySent cluster name) (hstored : h.stored = some v) (ht : t.Restates v) :
      ControlledStep name cluster h
        (h.afterPass (t.reconcile (Scripted.api api) now (.fresh h.world)).2)
  /-- Others change the cluster as they like, but add no binding with the label. -/
  | others (w : ω)
      (hw : ∀ b ∈ (cluster w).bindingsOf name, b ∈ (cluster h.world).bindingsOf name) :
      ControlledStep name cluster h { h with world := w }

/-- A history that begins without any tree or binding and goes on step by step. -/
inductive Controlled (name : String) (cluster : ω → Cluster) : History ω → Prop
  | start (w : ω) (hw : (cluster w).bindingsOf name = []) : Controlled name cluster { world := w }
  | step {h h' : History ω} (hreach : Controlled name cluster h)
      (hstep : ControlledStep name cluster h h') : Controlled name cluster h'

/-- Some requester has tried out the deletion at `key`. -/
def Revocable (record : List Entry) (key : BindingKey) : Prop :=
  Answered record fun trials => DeletionTried trials key

/-- What holds throughout a history: the stored version has the name of the tree,
each binding with its label is covered, and whatever a pass deleted had been
tried out. -/
structure Covered (name : String) (cluster : ω → Cluster) (h : History ω) : Prop where
  stored : ∀ v, h.stored = some v → v.name = name
  bindings : ∀ b ∈ (cluster h.world).bindingsOf name,
    Revocable h.record b.key ∨ ∃ v, h.stored = some v ∧ v.Asks b
  passes : ∀ later calls earlier, h.record = later ++ .passed calls :: earlier →
    ∀ c ∈ calls, ∀ key, c.call.deleted? = some key → Revocable earlier key

variable {name : String} {cluster : ω → Cluster} {h h' : History ω}

/-- Where nothing has happened yet, there is nothing to cover. -/
theorem covered_start {w : ω} (hw : (cluster w).bindingsOf name = []) :
    Covered name cluster { world := w } where
  stored _ h := by cases h
  bindings b hb := by
    have hnone : b ∈ (cluster w).bindingsOf name := hb
    rw [hw] at hnone
    cases hnone
  passes later _ _ h := by cases later <;> cases h

/-- A write keeps a history covered if what it no longer asks for was tried out. -/
theorem Covered.afterWrite {α : Type} (hcovered : h.Covered name cluster) {r : Requester}
    {new : Option FolderTree} {outcome : Except Fault Unit × Scripted α}
    (hname : ∀ v, new = some v → v.name = name)
    (hnew : outcome.1 = .ok () → ∀ v b, h.stored = some v → v.Asks b →
      (∃ v', new = some v' ∧ v'.Asks b) ∨
        AnsweredFor r outcome.2.calls fun trials => DeletionTried trials b.key) :
    (h.afterWrite r new outcome).Covered name cluster := by
  unfold History.afterWrite
  cases hok : outcome.1 with
  | error f => exact hcovered
  | ok u =>
      refine ⟨hname, fun b hb => ?_, passes_cons hcovered.passes fun _ he => by cases he⟩
      rcases hcovered.bindings b hb with hrevocable | ⟨v, hstored, hasks⟩
      · exact .inl (hrevocable.cons _)
      · rcases hnew hok v b hstored hasks with hkept | htried
        · exact .inr hkept
        · exact .inl ⟨r, _, List.mem_cons_self, htried⟩

/-- **No step lets a binding go that was not tried out.** -/
theorem Covered.step (hcovered : h.Covered name cluster)
    (hstep : ControlledStep name cluster h h') : h'.Covered name cluster := by
  cases hstep with
  | @create α a x r new hname hstored =>
      refine hcovered.afterWrite (fun v hv => Option.some.inj hv ▸ hname) ?_
      intro _ v b hv
      rw [hstored] at hv
      cases hv
  | @update α a x r v old new hname hstored hold =>
      refine hcovered.afterWrite (fun v hv => Option.some.inj hv ▸ hname) ?_
      intro hok v' b hv' hasks
      obtain rfl := Option.some.inj (hstored.symm.trans hv')
      have hsplit := Authority.asks_or_deletionTried (Prod.ext hok rfl) (hold.asks_iff.2 hasks)
      exact hsplit.imp_left fun hnew => ⟨new, rfl, hnew⟩
  | @delete α a x r v old htrust hstored hold =>
      refine hcovered.afterWrite (fun v hv => by cases hv) ?_
      intro hok v' b hv' hasks
      obtain rfl := Option.some.inj (hstored.symm.trans hv')
      exact .inr (Authority.deletionTried_of_asks htrust (Prod.ext hok rfl)
        (hold.asks_iff.2 hasks))
  | @pass api now v t hapi hstored ht =>
      -- What holds of the history so far is what the pass keeps.
      obtain rfl : t.name = name := ht.1.trans (hcovered.stored v hstored)
      have hstart : t.Accounted cluster (Revocable h.record) (.fresh h.world) := by
        refine ⟨fun b hb => ?_, fun c hc => by cases hc⟩
        rcases hcovered.bindings b hb with hrevocable | ⟨v', hv', hasks⟩
        · exact .inl hrevocable
        · obtain rfl := Option.some.inj (hstored.symm.trans hv')
          exact .inr (ht.asks_iff.2 hasks)
      have hend := t.reconcile_keeps_accounted hapi now _ hstart
      refine ⟨hcovered.stored, fun b hb => ?_, ?_⟩
      · rcases hend.bindings b hb with hrevocable | hasks
        · exact .inl (hrevocable.cons _)
        · exact .inr ⟨v, hstored, ht.asks_iff.1 hasks⟩
      · refine passes_cons hcovered.passes fun calls he c hc key hkey => ?_
        obtain rfl := Entry.passed.inj he
        exact hend.deletions c (List.mem_reverse.1 hc) key hkey
  | others w hw =>
      exact ⟨hcovered.stored, fun b hb => hcovered.bindings b (hw b hb), hcovered.passes⟩

/-- Every controlled history is covered. -/
theorem Controlled.covered (hreach : h.Controlled name cluster) : h.Covered name cluster := by
  induction hreach with
  | start w hw => exact covered_start hw
  | step _ hstep ih => exact ih.step hstep

/-- **No unauthorised revocation.**  Whatever a pass asks the server to delete,
some write before it was let through after a client for its requester had been
made, and no other client, and this one had deleted it on trial, and the server
had accepted that or found nothing there. -/
theorem every_revocation_was_tried (hreach : h.Controlled name cluster)
    {later earlier : List Entry} {calls : List CallRecord}
    (hrecord : h.record = later ++ .passed calls :: earlier) {c : CallRecord} (hc : c ∈ calls)
    {key : BindingKey} (hdelete : c.call = .delete key) :
    ∃ r trials, Entry.admitted r (⟨.clientFor r, none⟩ :: trials) ∈ earlier ∧
      (∀ c' ∈ trials, ∀ other, c'.call ≠ .clientFor other) ∧
      ∃ c' ∈ trials, c'.call = .delete key ∧
        (c'.fault = none ∨ ∃ f, c'.fault = some f ∧ f.isNotFound = true) := by
  have hdeleted : c.call.deleted? = some key := Call.deleted?_eq_some_iff.2 hdelete
  obtain ⟨r, _, hadmitted, trials, rfl, hclientless, htried⟩ :=
    hreach.covered.passes later calls earlier hrecord c hc key hdeleted
  exact ⟨r, trials, hadmitted, hclientless, htried⟩

/-- The tree is created for two namespaces. -/
def raised : History (Nat × Cluster) :=
  ({ world := (0, { namespaces := .ofList [("a", ()), ("b", ())] }) } :
    History (Nat × Cluster)).afterWrite ⟨"root", none, []⟩ (some (team ["a", "b"]))
    (openAuthority.recorded.checkWrite ⟨"root", none, []⟩ none (team ["a", "b"])
      (.fresh (.fresh ())))

/-- A pass makes two bindings and cannot record how it went. -/
def served : History (Nat × Cluster) :=
  raised.afterPass
    ((team ["a", "b"]).reconcile (Scripted.api (Cluster.flaky (Cluster.hiccup 5))) ⟨0, 0⟩
      (.fresh raised.world)).2

/-- Somebody else deletes the tree, and its bindings stay. -/
def orphaned : History (Nat × Cluster) :=
  served.afterWrite ⟨"bob", none, []⟩ none
    (openAuthority.recorded.checkDelete ⟨"bob", none, []⟩ (team ["a", "b"]) (.fresh (.fresh ())))

/-- The tree is created anew, for one namespace. -/
def refounded : History (Nat × Cluster) :=
  orphaned.afterWrite ⟨"root", none, []⟩ (some (team ["a"]))
    (openAuthority.recorded.checkWrite ⟨"root", none, []⟩ none (team ["a"]) (.fresh (.fresh ())))

/-- The next pass clears the other one. -/
def cleared : History (Nat × Cluster) :=
  refounded.afterPass
    ((team ["a"]).reconcile (Scripted.api (Cluster.flaky (Cluster.hiccup 5))) ⟨0, 0⟩
      (.fresh refounded.world)).2

/-- The tree may be created. -/
theorem raised_controlled : raised.Controlled "team" Prod.snd :=
  .step (.start _ rfl) (.create _ _ _ rfl rfl)

/-- A pass may stop after its changes. -/
theorem served_controlled : served.Controlled "team" Prod.snd :=
  .step raised_controlled
    (.pass (v := team ["a", "b"]) _ _ (Cluster.flaky_addsOnlySent _ _) rfl (.refl _))

/-- The tree may be deleted by somebody who is not trusted. -/
theorem orphaned_controlled : orphaned.Controlled "team" Prod.snd :=
  .step served_controlled (.delete (v := team ["a", "b"]) _ _ _ rfl rfl (.refl _))

/-- It may be created anew. -/
theorem refounded_controlled : refounded.Controlled "team" Prod.snd :=
  .step orphaned_controlled (.create _ _ _ rfl rfl)

/-- The next pass may follow. -/
theorem cleared_controlled : cleared.Controlled "team" Prod.snd :=
  .step refounded_controlled
    (.pass (v := team ["a"]) _ _ (Cluster.flaky_addsOnlySent _ _) rfl (.refl _))

/-- The last pass deletes a binding that an earlier version asked for, and the one who
deleted that version had a client of their own try it out. -/
theorem every_revocation_was_tried_team :
    cleared.Controlled "team" Prod.snd ∧
      ∃ sent calls byBob, cleared.record = .passed sent :: refounded.record ∧
        refounded.record = .admitted ⟨"root", none, []⟩ calls :: orphaned.record ∧
        orphaned.record =
          .admitted ⟨"bob", none, []⟩ (⟨.clientFor ⟨"bob", none, []⟩, none⟩ :: byBob) ::
            served.record ∧
        ⟨.delete ⟨"b", "foldertree-team-edit"⟩, none⟩ ∈ sent ∧
        ∃ r trials, Entry.admitted r (⟨.clientFor r, none⟩ :: trials) ∈ refounded.record ∧
          (∀ c ∈ trials, ∀ other, c.call ≠ .clientFor other) ∧
          ∃ c ∈ trials, c.call = .delete ⟨"b", "foldertree-team-edit"⟩ ∧
            (c.fault = none ∨ ∃ f, c.fault = some f ∧ f.isNotFound = true) := by
  have hrecord : cleared.record = [] ++ .passed _ :: refounded.record := rfl
  have hsent : (⟨.delete ⟨"b", "foldertree-team-edit"⟩, none⟩ : CallRecord) ∈
      ((team ["a"]).reconcile (Scripted.api (Cluster.flaky (Cluster.hiccup 5))) ⟨0, 0⟩
        (.fresh refounded.world)).2.calls :=
    List.mem_of_getElem? (i := 1) rfl
  exact ⟨cleared_controlled, _, _, _, hrecord, rfl, rfl, hsent,
    every_revocation_was_tried cleared_controlled hrecord hsent rfl⟩

end History

end FolderGrants
