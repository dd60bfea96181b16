import FolderGrants.Proofs.Conditions
import FolderGrants.Proofs.PassFootprint
import FolderGrants.Proofs.Recording

/-!
# What the stored status tells

However a pass went, it sets one condition in the status that it found, lets the
opposite one go and puts down the generation; if that is the status it found, it
writes nothing.  A pass over the bindings sends no status and leaves the trees alone,
so what is stored in the end is what is recorded in the end, unless it could not be
written.

* `Api.StoresStatus` — a status that is said to be written has been stored;
* `FolderTree.StatusTells` — a status tells how a pass went;
* `FolderTree.statusWith_tells` — what is recorded tells it, whatever was found;
* `FolderTree.stored_of_recordCondition` — what is recorded is stored;
* `FolderTree.status_tells_outcome` — the status tells how the last pass went.
-/

namespace FolderGrants

/-- The tree whose status a call sends, and the status, if it sends one. -/
def Call.status? : Call → Option (String × Status)
  | .patchStatus tree status => some (tree, status)
  | _ => none

/-- The calls on bindings leave the stored trees alone, whatever else they do and
answer, and a status that is said to be written has been stored. -/
structure Api.StoresStatus {σ : Type} (api : Api σ) (cluster : σ → Cluster) : Prop where
  list : ∀ tree T, (api.list tree).Keeps fun s => (cluster s).trees = T
  namespaceExists : ∀ ns T, (api.namespaceExists ns).Keeps fun s => (cluster s).trees = T
  create : ∀ b T, (api.create b).Keeps fun s => (cluster s).trees = T
  replace : ∀ b T, (api.replace b).Keeps fun s => (cluster s).trees = T
  delete : ∀ key T, (api.delete key).Keeps fun s => (cluster s).trees = T
  patchStatus : ∀ name status s s', api.patchStatus name status s = (.ok (), s') →
    (cluster s').trees = ((cluster s).putStatus name status).trees

/-- A cluster whose calls may fail stores what it says that it has stored. -/
theorem Api.MayFail.storesStatus {σ : Type} {api : Api σ} {cluster : σ → Cluster}
    (h : api.MayFail cluster) : api.StoresStatus cluster where
  list tree T := (h.list tree).keeps (P := fun K => K.trees = T) fun _ hT => hT
  namespaceExists ns T := (h.namespaceExists ns).keeps (P := fun K => K.trees = T) fun _ hT => hT
  create b _ := (h.create b).keeps fun K hT =>
    (congrArg Cluster.trees (K.create_only _ b)).trans hT
  replace b _ := (h.replace b).keeps fun K hT =>
    (congrArg Cluster.trees (K.replace_only _ b)).trans hT
  delete key _ := (h.delete key).keeps fun K hT =>
    (congrArg Cluster.trees (K.delete_only _ key)).trans hT
  patchStatus name status s s' hrun := by
    have hideal := (h.patchStatus name status).ok s () s' hrun
    obtain ⟨-, hcluster⟩ := Action.outcome_eq_iff.1 hideal
    rw [hcluster]

namespace Scripted

variable {ω α : Type} {c : Call} {a : Action ω α}

/-- No status has been sent. -/
def NoStatusSent (s : Scripted ω) : Prop := ∀ r ∈ s.log, r.call.status? = none

/-- Every status that has been sent has been written, as far as the server says. -/
def StatusWritten (s : Scripted ω) : Prop :=
  ∀ r ∈ s.log, r.call.status? ≠ none → r.fault = none

instance (s : Scripted ω) : Decidable s.NoStatusSent :=
  inferInstanceAs (Decidable (∀ r ∈ s.log, r.call.status? = none))

instance (s : Scripted ω) : Decidable s.StatusWritten :=
  inferInstanceAs (Decidable (∀ r ∈ s.log, r.call.status? ≠ none → r.fault = none))

theorem noStatusSent_fresh (w : ω) : (Scripted.fresh w).NoStatusSent := fun _ hr => by cases hr

/-- As long as none has been sent, every one has been written. -/
theorem NoStatusSent.statusWritten {s : Scripted ω} (h : s.NoStatusSent) : s.StatusWritten :=
  fun r hr hsent => absurd (h r hr) hsent

/-- Calls keep of the world what they keep where they are not recorded. -/
theorem keeps_world_perform {P : ω → Prop} (ha : a.Keeps P) (c : Call) :
    (perform c a).Keeps fun s => P s.world := by
  intro s hs
  rcases world_perform c a s with hsame | hrun
  · exact hsame.symm ▸ hs
  · exact hrun.symm ▸ ha s.world hs

/-- A call that sends no status. -/
theorem keeps_noStatusSent_perform (h : c.status? = none) (a : Action ω α) :
    (perform c a).Keeps NoStatusSent := by
  intro s hs r hr
  obtain ⟨fault, hlog⟩ := log_perform c a s
  rw [hlog] at hr
  rcases List.mem_cons.1 hr with rfl | hold
  · exact h
  · exact hs r hold

end Scripted

/-- A server whose calls are recorded stores what it stored before. -/
theorem Api.StoresStatus.scripted {ω : Type} {api : Api ω} {cluster : ω → Cluster}
    (h : api.StoresStatus cluster) : (Scripted.api api).StoresStatus fun s => cluster s.world where
  list tree T := Scripted.keeps_world_perform (h.list tree T) _
  namespaceExists ns T := Scripted.keeps_world_perform (h.namespaceExists ns T) _
  create b T := Scripted.keeps_world_perform (h.create b T) _
  replace b T := Scripted.keeps_world_perform (h.replace b T) _
  delete key T := Scripted.keeps_world_perform (h.delete key T) _
  patchStatus name status _ _ hrun :=
    h.patchStatus name status _ _ (Scripted.run_of_perform_eq_ok hrun)

namespace FolderTree

/-- The status says that `type` holds, with this message, and nothing of `opposite`.  All
else is as in the status that the tree had: conditions of other types are the same, in
the same order, and a first condition of `type` that said so already is the same, its
time included. -/
structure StatusTells (t : FolderTree) (type message opposite : String) (status : Status) :
    Prop where
  generation : status.processedGeneration = t.metadata.generation.getD 0
  current : ∃ d, status.condition? type = some d ∧ d.truth = .yes ∧ d.reason = type ∧
    d.message = message
  cleared : ∀ d ∈ status.conditions, d.type ≠ opposite
  others : status.conditions.filter (fun d => d.type ≠ type ∧ d.type ≠ opposite) =
    t.currentStatus.conditions.filter fun d => d.type ≠ type ∧ d.type ≠ opposite
  kept : ∀ d, t.currentStatus.condition? type = some d → d.truth = .yes → d.reason = type →
    d.message = message → status.condition? type = some d

/-- What is recorded of a condition that names itself as its reason tells it, whatever
the status before. -/
theorem statusWith_tells (t : FolderTree) {type opposite : String} (hne : type ≠ opposite)
    (message : String) (now : Instant) :
    t.StatusTells type message opposite
      (t.statusWith ⟨type, .yes, type, message, now⟩ opposite) := by
  let c : Condition := ⟨type, .yes, type, message, now⟩
  have hstays : c.type ∉ [opposite] := fun hmem => hne (List.mem_singleton.1 hmem)
  have hfind := Condition.find?_set t.currentStatus.conditions hstays
  obtain ⟨-, hsays⟩ := Condition.sameState_iff.1
    (c.settled_sameState (t.currentStatus.condition? type))
  refine ⟨rfl, ⟨_, hfind, hsays⟩, fun d hd => ?_, ?_, fun d hd htrue hwhy hsays => ?_⟩
  · have hgone := Condition.type_ne_of_mem_set hstays hd
    exact fun heq => hgone (List.mem_singleton.2 heq)
  · have hothers := Condition.filter_set t.currentStatus.conditions c [opposite]
    simp only [List.mem_singleton] at hothers
    exact hothers
  · have htype : d.type = type := by simpa using List.find?_some hd
    have hsame : d.sameState c = true := Condition.sameState_iff.2 ⟨htype, htrue, hwhy, hsays⟩
    refine hfind.trans ?_
    show some (c.settled (t.currentStatus.condition? type)) = some d
    rw [hd, Condition.settled_of_sameState hsame]

/-- The status tells what came of the changes: that the tree is ready, or that processing
failed and with which fault. -/
def Reports (t : FolderTree) (outcome : Except Fault Summary) (status : Status) : Prop :=
  match outcome with
  | .ok _ => t.StatusTells Condition.ready Condition.readyMessage Condition.processingFailed status
  | .error f => t.StatusTells Condition.processingFailed f.message Condition.ready status

variable {ω : Type} {api : Api ω} {cluster : ω → Cluster} {t : FolderTree}

/-- The tree as it is stored once `c` has been recorded. -/
def recorded (t : FolderTree) (c : Condition) (replaced : String) : FolderTree :=
  { t with status := some (t.statusWith c replaced) }

/-- What is recorded succeeds exactly if it is written where it has to be, and it is
what is stored then. -/
theorem stored_of_recordCondition (hapi : api.StoresStatus cluster) {c : Condition}
    {replaced : String} {mid s' : Scripted ω} {x : Except Fault Unit}
    (hstored : (cluster mid.world).trees.get? t.name = some t) (hmid : mid.NoStatusSent)
    (h : t.recordCondition (Scripted.api api) c replaced mid = (x, s')) :
    (x = .ok () ↔ s'.StatusWritten) ∧
      (s'.StatusWritten → (cluster s'.world).trees.get? t.name =
        some (t.recorded c replaced)) := by
  unfold recordCondition at h
  by_cases hsame : t.status = some (t.statusWith c replaced)
  · rw [if_pos hsame] at h
    obtain ⟨rfl, rfl⟩ := Action.outcome_eq_iff.1 h
    refine ⟨iff_of_true rfl hmid.statusWritten, fun _ => ?_⟩
    rw [hstored, recorded, ← hsame]
  · rw [if_neg hsame] at h
    have hpatch : Scripted.perform (.patchStatus t.name (t.statusWith c replaced))
        (api.patchStatus t.name (t.statusWith c replaced)) mid = (x, s') := h
    cases x with
    | ok u =>
        have hwritten : s'.StatusWritten := by
          intro r hr hsent
          rw [Scripted.log_of_perform_eq_ok hpatch] at hr
          rcases List.mem_cons.1 hr with rfl | hold
          · rfl
          · exact absurd (hmid r hold) hsent
        refine ⟨iff_of_true rfl hwritten, fun _ => ?_⟩
        rw [hapi.patchStatus _ _ _ _ (Scripted.run_of_perform_eq_ok hpatch), Cluster.putStatus,
          hstored]
        exact OrderedMap.get?_insert_self _ _ _
    | error f =>
        have hfailed : ¬s'.StatusWritten := by
          intro hwritten
          have hfault := hwritten ⟨_, some f⟩ (by
            rw [Scripted.log_of_perform_eq_error hpatch]
            exact List.mem_cons_self) (by simp [Call.status?])
          cases hfault
        exact ⟨iff_of_false (fun hok => by cases hok) hfailed, fun h => absurd h hfailed⟩

/-- A pass over the bindings sends no status. -/
theorem keeps_noStatusSent_syncBindings (api : Api ω) (t : FolderTree) :
    (t.syncBindings (Scripted.api api)).Keeps Scripted.NoStatusSent :=
  keeps_syncBindings_of_calls (fun _ => Scripted.keeps_noStatusSent_perform rfl _)
    (fun _ => Scripted.keeps_noStatusSent_perform rfl _)
    (fun _ => Scripted.keeps_noStatusSent_perform rfl _)
    (fun _ => Scripted.keeps_noStatusSent_perform rfl _)
    (fun _ => Scripted.keeps_noStatusSent_perform rfl _) t

/-- A pass over the bindings leaves the trees alone. -/
theorem keeps_trees_syncBindings {σ : Type} {api : Api σ} {cluster : σ → Cluster}
    (hapi : api.StoresStatus cluster) (T : OrderedMap String FolderTree) (t : FolderTree) :
    (t.syncBindings api).Keeps fun s => (cluster s).trees = T :=
  keeps_syncBindings_of_calls (hapi.list · T) (hapi.namespaceExists · T) (hapi.create · T)
    (hapi.replace · T) (hapi.delete · T) t

/-- When it comes to recording how a pass went, no status has been sent and the tree is
stored as it was. -/
theorem untold_of_syncBindings (hapi : api.StoresStatus cluster) {w : ω}
    (hstored : (cluster w).trees.get? t.name = some t) {outcome : Except Fault Summary}
    {mid : Scripted ω} (hsync : t.syncBindings (Scripted.api api) (.fresh w) = (outcome, mid)) :
    mid.NoStatusSent ∧ (cluster mid.world).trees.get? t.name = some t := by
  have htrees : (cluster mid.world).trees = (cluster w).trees :=
    (keeps_trees_syncBindings hapi.scripted (cluster w).trees t).run hsync rfl
  refine ⟨(keeps_noStatusSent_syncBindings api t).run hsync (Scripted.noStatusSent_fresh w), ?_⟩
  rw [htrees, hstored]

/-- **The stored status tells how the last pass went.**  Whatever came of the changes
and whatever the status was before: a pass succeeds exactly if its changes do and its
status, if it has to be written, is; after changes that fail it fails with their fault.
Unless a status could not be written, the one that is stored then tells that the tree
is ready, or that processing failed and why. -/
theorem status_tells_outcome (hapi : api.StoresStatus cluster)
    (hlive : t.metadata.deletionTimestamp = none) (now : Instant) {w : ω}
    (hstored : (cluster w).trees.get? t.name = some t) {outcome : Except Fault Summary}
    {mid s' : Scripted ω} {x : Except Fault Followup}
    (hsync : t.syncBindings (Scripted.api api) (.fresh w) = (outcome, mid))
    (hpass : t.reconcile (Scripted.api api) now (.fresh w) = (x, s')) :
    ((∃ next, x = .ok next) ↔ (∃ summary, outcome = .ok summary) ∧ s'.StatusWritten) ∧
      (∀ f, outcome = .error f → x = .error f) ∧
      (s'.StatusWritten → ∃ status,
        (cluster s'.world).trees.get? t.name = some { t with status := some status } ∧
          t.Reports outcome status) := by
  obtain ⟨hsilent, hmid⟩ := untold_of_syncBindings hapi hstored hsync
  cases outcome with
  | ok summary =>
      rcases hrecord : t.recordCondition (Scripted.api api) (.ofSuccess now)
        Condition.processingFailed mid with ⟨y, s''⟩
      rw [reconcile_of_ok hlive now hsync hrecord] at hpass
      obtain ⟨rfl, rfl⟩ := Action.outcome_eq_iff.1 hpass
      obtain ⟨hok, htold⟩ := stored_of_recordCondition hapi hmid hsilent hrecord
      refine ⟨?_, (fun _ hf => by cases hf), fun hwritten => ⟨_, htold hwritten, ?_⟩⟩
      · rw [← hok]
        cases y with
        | ok u => exact iff_of_true ⟨_, rfl⟩ ⟨⟨summary, rfl⟩, rfl⟩
        | error f => exact iff_of_false (fun ⟨_, h⟩ => by cases h) fun ⟨_, h⟩ => by cases h
      · exact t.statusWith_tells Condition.ready_ne_processingFailed Condition.readyMessage now
  | error f =>
      rcases hrecord : t.recordCondition (Scripted.api api) (.ofFault now f) Condition.ready mid
        with ⟨y, s''⟩
      rw [reconcile_of_error hlive now hsync hrecord] at hpass
      obtain ⟨rfl, rfl⟩ := Action.outcome_eq_iff.1 hpass
      obtain ⟨-, htold⟩ := stored_of_recordCondition hapi hmid hsilent hrecord
      refine ⟨?_, fun f' hf => Except.error.inj hf ▸ rfl, fun hwritten => ⟨_, htold hwritten, ?_⟩⟩
      · exact iff_of_false (fun ⟨_, h⟩ => by cases h) fun ⟨⟨_, h⟩, _⟩ => by cases h
      · exact t.statusWith_tells Condition.ready_ne_processingFailed.symm f.message now

/-- The platform with a status that has seen better days: somebody else's conditions, one
that the tree is ready, and the same failure told twice. -/
def worried : FolderTree :=
  { platform with
    metadata := { platform.metadata with generation := some 7 }
    status := some
      ⟨[⟨"Synced", .unknown, "Mirror", "", ⟨1, 0⟩⟩,
        ⟨"Ready", .yes, "Ready", "FolderTree processed successfully", ⟨2, 0⟩⟩,
        ⟨"ProcessingFailed", .yes, "ProcessingFailed", "internal error [server]: out of order",
          ⟨3, 0⟩⟩,
        ⟨"Synced", .no, "Mirror", "late", ⟨4, 0⟩⟩,
        ⟨"ProcessingFailed", .no, "ProcessingFailed", "", ⟨5, 0⟩⟩], 6⟩ }

/-- What comes of a pass over it that cannot list its bindings. -/
def worriedPass : Except Fault Followup × Scripted (Nat × Cluster) :=
  worried.reconcile (Scripted.api (Cluster.flaky (Cluster.hiccup 0))) ⟨9, 0⟩
    (.fresh (0, driftedCluster.putTree worried))

theorem status_tells_outcome_worried :
    worriedPass.1 = .error (.internal "server" "out of order") ∧
      worriedPass.2.StatusWritten ∧
      ∃ status, worriedPass.2.world.2.trees.get? "platform" =
          some { worried with status := some status } ∧
        worried.Reports (.error (.internal "server" "out of order")) status := by
  have hstored : (driftedCluster.putTree worried).trees.get? worried.name = some worried :=
    OrderedMap.get?_insert_self _ _ _
  have hpass : worried.reconcile (Scripted.api (Cluster.flaky (Cluster.hiccup 0))) ⟨9, 0⟩
      (.fresh (0, driftedCluster.putTree worried)) = (worriedPass.1, worriedPass.2) := rfl
  obtain ⟨-, hfails, htold⟩ := status_tells_outcome
    (Cluster.flaky_mayFail (Cluster.hiccup 0)).storesStatus rfl ⟨9, 0⟩ hstored rfl hpass
  have hwritten : worriedPass.2.StatusWritten := by decide
  exact ⟨hfails _ rfl, hwritten, htold hwritten⟩

end FolderTree

end FolderGrants
