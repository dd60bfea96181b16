import FolderGrants.Proofs.Conflicts
import FolderGrants.Proofs.EmptyVersions
import FolderGrants.Proofs.PassInvariants
import FolderGrants.Proofs.SameChanges
import FolderGrants.Proofs.Trials

/-!
# Torn versions

A version of a tree is *torn* if its templates contradict each other, so that it has no
desired set.  Reviews refuse it, but it may have been stored while none were held, and
then it is the old version of every update.  An update is reviewed by what changes
between two desired sets, and where the old one is missing the review fails, whoever asks
and whatever the new version is.  Passes fail over the same conflict, and wait for the
specification to change.  So of the stored versions exactly those that are not torn can be
replaced by somebody whose every trial is accepted.

* `Authority.ConsentsTo` — a requester whose every trial is accepted;
* `Authority.ConsentsTo.exists_run` — then every list of due changes goes through;
* `FolderTree.reconcile_of_torn` — passes over torn versions;
* `Authority.replaced_unless_torn` — which stored versions can be replaced;
* `Authority.torn_never_mended` — one that cannot be repaired.
-/

namespace FolderGrants

/-- Where `I` holds, every trial is accepted. -/
structure Trials.AcceptOn {σ : Type} (trials : Trials σ) (I : σ → Prop) : Prop where
  create : ∀ b, (trials.create b).SucceedsOn I
  replace : ∀ b, (trials.replace b).SucceedsOn I
  delete : ∀ key, (trials.delete key).SucceedsOn I

namespace Authority

variable {σ : Type} {a : Authority σ} {r : Requester} {I : σ → Prop} {s : σ}

/-- Where `I` holds, a client that acts for the requester can be made, and it has every
trial accepted. -/
structure ConsentsTo (a : Authority σ) (r : Requester) (I : σ → Prop) : Prop where
  clock : ∀ s, I s → I (a.clock s).2
  actAs : ∀ s, I s → ∃ trials s', a.actAs r s = (.ok trials, s') ∧ trials.AcceptOn I ∧ I s'

/-- The trial of a due change is accepted, as a due change has the bindings it needs. -/
theorem ConsentsTo.exists_accepts (hconsents : a.ConsentsTo r I) {trials : Trials σ}
    (hall : trials.AcceptOn I) (tree : String) {desired : DesiredSet} {baseline : Baseline}
    {c : Change} (hdue : c.Due desired baseline) (hs : I s) :
    ∃ s', a.Accepts trials tree c s s' ∧ I s' := by
  cases hdue with
  | @creation k g _ _ =>
      obtain ⟨_, s', hcreate, hs'⟩ := hall.create
        (g.binding.forTrial tree g.template.name (a.clock s).1) _ (hconsents.clock s hs)
      exact ⟨s', .create rfl rfl hcreate, hs'⟩
  | @renewal k g held _ _ _ _ =>
      obtain ⟨_, s', hreplace, hs'⟩ := hall.replace (held.binding.refreshed g.binding) s hs
      exact ⟨s', .update rfl rfl rfl hreplace, hs'⟩
  | @removal k held _ _ =>
      obtain ⟨_, s', hdelete, hs'⟩ :=
        hall.delete ⟨k.ns, (Change.removal k held).bindingName⟩ s hs
      exact ⟨s', .delete rfl hdelete, hs'⟩

/-- Due changes are accepted one after the other. -/
theorem ConsentsTo.exists_run (hconsents : a.ConsentsTo r I) (tree : String) {desired : DesiredSet}
    {baseline : Baseline} {changes : List Change}
    (hdue : ∀ c ∈ changes, c.Due desired baseline) (hs : I s) :
    ∃ s', a.AcceptsAll r (fun trials => a.Accepts trials tree) changes s s' := by
  by_cases hnil : changes = []
  · subst hnil
    exact ⟨s, .nothing s⟩
  · obtain ⟨trials, mid, hact, hall, hmid⟩ := hconsents.actAs s hs
    obtain ⟨s', hchain, -⟩ := Chain.exists_run
      (fun c hc s hs => hconsents.exists_accepts hall tree (hdue c hc) hs) hmid
    exact ⟨s', .trials hnil hact hchain⟩

/-- A version that is not torn may be put in place of another one. -/
theorem ConsentsTo.exists_checkWrite (hconsents : a.ConsentsTo r I) {old new : FolderTree}
    {before after : DesiredSet} (hold : old.unownedDesired = .ok before)
    (hnew : new.unownedDesired = .ok after) (hs : I s) :
    ∃ s', a.checkWrite r (some old) new s = (.ok (), s') := by
  obtain ⟨s', haccepts⟩ := hconsents.exists_run new.name
    (fun _ hc => DesiredSet.mem_changesFrom_iff_due.1 hc) hs
  have hchanges : FolderTree.changesFrom (some old) new =
      .ok (after.changesFrom before.baseline) :=
    FolderTree.changesFrom_some_eq_ok_iff.2 ⟨before, after, hold, hnew, rfl⟩
  exact ⟨s', checkWrite_eq_ok_iff.2 ⟨_, hchanges, haccepts⟩⟩

/-- The review of an update fails over the old version, before anything is tried out. -/
theorem checkWrite_of_torn (a : Authority σ) (r : Requester) {old : FolderTree} {c : Conflict}
    (htorn : old.unownedDesired = .error c) (new : FolderTree) (s : σ) :
    a.checkWrite r (some old) new s = (.error (.conflict c), s) := by
  rw [checkWrite, Action.bind_run, FolderTree.changesFrom, htorn]
  rfl

end Authority

/-- A pass over a torn version fails with its conflict, and that is not tried again. -/
theorem FolderTree.reconcile_of_torn {σ : Type} {t : FolderTree} {c : Conflict}
    (htorn : t.unownedDesired = .error c) (hlive : t.metadata.deletionTimestamp = none)
    (api : Api σ) (now : Instant) (s : σ) :
    (t.reconcile api now s).1 = .error (.conflict c) ∧
      (Fault.conflict c).followup = .awaitChange := by
  have hsync : t.syncBindings api s = (.error (.conflict c), s) := by
    rw [syncBindings, Action.bind_run, ownedDesired_eq, htorn]
    rfl
  rcases hrecord : t.recordCondition api (.ofFault now (.conflict c)) Condition.ready s with ⟨x, s'⟩
  rw [reconcile_of_error hlive now hsync hrecord]
  exact ⟨rfl, rfl⟩

namespace Authority

variable {σ : Type} {a : Authority σ} {r : Requester} {I : σ → Prop} {s : σ}

/-- **Only what is torn cannot be replaced.**  Somebody for whom clients can be made and
every trial is accepted may put a version that has a desired set in place of a stored one
exactly if the stored one has a desired set too.  If it has none, nobody may put anything
in its place: the review answers with the conflict of the stored version, and tries
nothing out. -/
theorem replaced_unless_torn (hconsents : a.ConsentsTo r I) {new : FolderTree} {after : DesiredSet}
    (hnew : new.unownedDesired = .ok after) (hs : I s) (old : FolderTree) :
    ((∃ s', a.checkWrite r (some old) new s = (.ok (), s')) ↔
      ∃ before, old.unownedDesired = .ok before) ∧
    ∀ c, old.unownedDesired = .error c → ∀ (other : Requester) (next : FolderTree) (w : σ),
      a.checkWrite other (some old) next w = (.error (.conflict c), w) := by
  refine ⟨⟨fun h => ?_, fun h => ?_⟩, fun c htorn other next w =>
    a.checkWrite_of_torn other htorn next w⟩
  · obtain ⟨s', hallowed⟩ := h
    obtain ⟨changes, hchanges, -⟩ := checkWrite_eq_ok_iff.1 hallowed
    obtain ⟨before, _, hold, -, -⟩ := FolderTree.changesFrom_some_eq_ok_iff.1 hchanges
    exact ⟨before, hold⟩
  · obtain ⟨before, hold⟩ := h
    exact hconsents.exists_checkWrite hold hnew hs

end Authority

/-- Without a rule that lets it fail, a call succeeds if what is behind it does. -/
theorem Scripted.succeedsOn_perform {ω α : Type} {c : Call} {act : Action ω α}
    (hact : act.SucceedsOn fun _ => True) :
    (perform c act).SucceedsOn fun s => s.rules = [] := by
  intro s hs
  obtain ⟨x, world, hrun, -⟩ := hact s.world trivial
  refine ⟨x, { s with world, log := ⟨c, none⟩ :: s.log }, ?_, hs⟩
  simp only [perform, hs, FailureRule.take, hrun]

namespace Authority

/-- Without a rule that lets them fail, clients can be made for everybody and have every
trial accepted. -/
theorem consentsTo_scripted {ω : Type} (trusted : List String) (r : Requester) :
    (Scripted.authority trusted none : Authority (Scripted ω)).ConsentsTo r
      fun s => s.rules = [] where
  clock _ hs := hs
  actAs s hs := by
    have hdone : ∀ c, (Scripted.perform c (pure () : Action ω Unit)).SucceedsOn
        fun s => s.rules = [] := fun c =>
      Scripted.succeedsOn_perform fun world _ => ⟨(), world, rfl, trivial⟩
    obtain ⟨_, mid, hclient, hmid⟩ := hdone (.clientFor r) s hs
    refine ⟨Scripted.trials, mid, ?_, ⟨fun _ => hdone _, fun _ => hdone _, fun _ => hdone _⟩, hmid⟩
    exact Action.bind_eq_ok_iff.2 ⟨(), mid, hclient, rfl⟩

/-- The torn platform with what tears it taken out. -/
def mendedPlatform : FolderTree :=
  { FolderTree.tornPlatform with
    spec :=
      { root := FolderTree.tornPlatform.spec.root
        folders :=
          [{ name := "org"
             templates := [⟨"admin", [.group "ops"], .clusterRole "admin", some true⟩] },
           { name := "api", namespaces := ["api-ns"] }] } }

/-- The platform before it was torn. -/
def soundPlatform : FolderTree :=
  { FolderTree.tornPlatform with spec := FolderTree.platform.spec }

/-- A server that refuses nothing. -/
def lenient : Scripted Unit := { world := () }

/-- The conflict of the torn platform. -/
def tornConflict : Conflict := ⟨"torn", "api", "admin", "api-ns"⟩

theorem replaced_unless_torn_platform :
    (∃ s', gatekeeper.checkWrite dev (some soundPlatform) mendedPlatform lenient = (.ok (), s')) ∧
      (∃ before, soundPlatform.unownedDesired = .ok before) ∧
      FolderTree.tornPlatform.unownedDesired = .error tornConflict ∧
      gatekeeper.checkWrite dev (some FolderTree.tornPlatform) mendedPlatform lenient =
        (.error (.conflict tornConflict), lenient) := by
  have hconsents : gatekeeper.ConsentsTo dev fun s => s.rules = [] :=
    consentsTo_scripted defaultTrusted dev
  have hmended : ∃ after, mendedPlatform.unownedDesired = .ok after := ⟨_, rfl⟩
  obtain ⟨after, hafter⟩ := hmended
  have hunruled : lenient.rules = [] := rfl
  have hsound := replaced_unless_torn hconsents hafter hunruled soundPlatform
  have htorn := replaced_unless_torn hconsents hafter hunruled FolderTree.tornPlatform
  exact ⟨hsound.1.2 ⟨_, rfl⟩, ⟨_, rfl⟩, rfl, htorn.2 tornConflict rfl dev mendedPlatform lenient⟩

/-- **A torn version is never mended.**  The platform is stored torn, and passes over it
wait for its specification to change; but the version that mends it is refused to
somebody who may make every change, over the version that is to go. -/
theorem torn_never_mended :
    (gatekeeper.ConsentsTo dev fun s => s.rules = []) ∧ lenient.rules = [] ∧
      (∃ after, mendedPlatform.unownedDesired = .ok after) ∧
      gatekeeper.checkWrite dev (some FolderTree.tornPlatform) mendedPlatform lenient =
        (.error (.conflict tornConflict), lenient) ∧
      (FolderTree.tornPlatform.reconcile Cluster.api ⟨0, 0⟩ {}).1 =
        .error (.conflict tornConflict) ∧
      (Fault.conflict tornConflict).followup = .awaitChange := by
  have htorn : FolderTree.tornPlatform.unownedDesired = .error tornConflict := rfl
  exact ⟨consentsTo_scripted defaultTrusted dev, rfl, ⟨_, rfl⟩,
    gatekeeper.checkWrite_of_torn dev htorn mendedPlatform lenient,
    FolderTree.reconcile_of_torn htorn rfl Cluster.api ⟨0, 0⟩ {}⟩

end Authority

end FolderGrants
