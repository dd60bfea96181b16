import FolderGrants.Proofs.ChangeOrder
import FolderGrants.Proofs.EmptyVersions
import FolderGrants.Proofs.RecordedCalls

/-!
# The calls of a review, one by one

A review of a write makes its calls in a fixed order: a client for the requester, and
then the trials of one change after the other, up to the first that is refused.  What
the trial of a change calls depends on its kind and, for a renewal, on whether the
server knows the binding; an answer that nothing was found is a reason to try on for a
renewal, a consent for a removal and a refusal for a creation.

The record of the calls, with what each was answered, therefore falls into one part for
each change.  Every change of a list carries what its trial needs, so that there is no
other case.

* `Binding.TrialOf` — what is sent to try out the creation of a binding;
* `Authority.Tried` — the calls of one trial, by what the server answers;
* `Authority.TriedAll` — the calls of trials that are all accepted;
* `Authority.Replays` — the calls of trials up to the first that is refused;
* `Authority.tried_of_tryChange`, `Authority.replays_of_tryAll` — these are the calls, of
  one trial and of a list of them;
* `Authority.write_replays_changes` — what a review of a write calls, and what it says.
-/

namespace FolderGrants

variable {ω : Type}

/-- `sent` is what tries out the creation of `b`: it has a name that no real binding goes by
and nothing that the server assigns, and otherwise it is `b`. -/
structure Binding.TrialOf (sent b : Binding) (tree template : String) (nanos : Int) : Prop where
  name : sent.metadata.name =
    some ("dryrun-foldertree-" ++ tree ++ "-" ++ template ++ "-" ++ toString nanos)
  resourceVersion : sent.metadata.resourceVersion = none
  uid : sent.metadata.uid = none
  /-- All other metadata is that of `b`. -/
  metadata : { sent.metadata with
    name := b.metadata.name
    resourceVersion := b.metadata.resourceVersion
    uid := b.metadata.uid } = b.metadata
  subjects : sent.subjects = b.subjects
  roleRef : sent.roleRef = b.roleRef

/-- The binding that is sent for a trial is the one that is tried out, under a trial name. -/
theorem Binding.forTrial_trialOf (b : Binding) (tree template : String) (nanos : Int) :
    (b.forTrial tree template nanos).TrialOf b tree template nanos where
  name := rfl
  resourceVersion := rfl
  uid := rfl
  metadata := rfl
  subjects := rfl
  roleRef := rfl

namespace Authority

/-- `a.Tried tree c calls refusal`: the trial of `c` makes these calls, in order, and the
change is refused with that fault, or accepted if there is none. -/
inductive Tried (a : Authority ω) (tree : String) (c : Change) :
    List CallRecord → Option Fault → Prop
  | creation {b sent : Binding} {w : ω} {answer : Option Fault} (hkind : c.kind = .create)
      (hdesired : c.desired = some b) (hsent : sent.TrialOf b tree c.template (a.clock w).1) :
      Tried a tree c [⟨.create sent, answer⟩] answer
  | renewal {existing desired : Binding} {answer : Option Fault} (hkind : c.kind = .update)
      (hexisting : c.existing = some existing) (hdesired : c.desired = some desired)
      (hanswer : ∀ f, answer = some f → f.isNotFound = false) :
      Tried a tree c [⟨.replace (existing.refreshed desired), answer⟩] answer
  /-- What is not there yet is tried out as a creation. -/
  | renewalOfMissing {existing desired sent : Binding} {missing : Fault} {w : ω}
      {answer : Option Fault} (hkind : c.kind = .update) (hexisting : c.existing = some existing)
      (hdesired : c.desired = some desired) (hmissing : missing.isNotFound = true)
      (hsent : sent.TrialOf (existing.refreshed desired) tree c.template (a.clock w).1) :
      Tried a tree c
        [⟨.replace (existing.refreshed desired), some missing⟩, ⟨.create sent, answer⟩] answer
  | removal {answer : Option Fault} (hkind : c.kind = .delete)
      (hanswer : ∀ f, answer = some f → f.isNotFound = false) :
      Tried a tree c [⟨.delete c.key, answer⟩] answer
  /-- What is gone already may be removed. -/
  | removalOfMissing {missing : Fault} (hkind : c.kind = .delete)
      (hmissing : missing.isNotFound = true) :
      Tried a tree c [⟨.delete c.key, some missing⟩] none

/-- The calls of trials that are accepted one after the other. -/
inductive TriedAll (a : Authority ω) (tree : String) : List Change → List CallRecord → Prop
  | nil : TriedAll a tree [] []
  | cons {c : Change} {rest : List Change} {calls more : List CallRecord}
      (head : a.Tried tree c calls none) (tail : TriedAll a tree rest more) :
      TriedAll a tree (c :: rest) (calls ++ more)

variable {a : Authority ω} {trials : Trials ω} {tree : String} {s s' : Scripted ω}
  {out : Except Fault Unit}

/-- A creation is tried out by one call, under a name that the clock gives. -/
theorem log_of_tryCreate {template : String} {b : Binding}
    (h : a.recorded.tryCreate trials.recorded tree template b s = (out, s')) :
    s'.log = ⟨.create (b.forTrial tree template (a.clock s.world).1), Action.fault? out⟩ ::
      s.log :=
  Scripted.log_of_perform (s := (a.recorded.clock s).2) h

/-- An answer that is not that nothing was found. -/
theorem isNotFound_of_answer {f g : Fault} (hf : ¬f.isNotFound = true) (hg : some f = some g) :
    g.isNotFound = false :=
  Option.some.inj hg ▸ Bool.eq_false_iff.2 hf

/-- **The calls of one trial.** -/
theorem tried_of_tryChange {c : Change} (hc : c.Complete)
    (h : a.recorded.tryChange trials.recorded tree c s = (out, s')) :
    ∃ calls, a.Tried tree c calls (Action.fault? out) ∧ s'.log = calls.reverse ++ s.log := by
  cases hc with
  | @creation ns template b =>
      exact ⟨_, .creation rfl rfl (Binding.forTrial_trialOf _ _ _ _), log_of_tryCreate h⟩
  | @renewal ns template existing desired hrole =>
      have hrun : (trials.recorded.replace (existing.refreshed desired)).orTry Fault.isNotFound
          (a.recorded.tryCreate trials.recorded tree template (existing.refreshed desired)) s =
            (out, s') := h
      rcases hreplace : trials.recorded.replace (existing.refreshed desired) s with ⟨f | u, mid⟩
      · have hlog := Scripted.log_of_perform hreplace
        by_cases hf : f.isNotFound = true
        · simp only [Action.orTry, hreplace, hf, if_true] at hrun
          have hsent := Binding.forTrial_trialOf (existing.refreshed desired) tree template
            (a.clock mid.world).1
          refine ⟨_, .renewalOfMissing rfl rfl rfl hf hsent, ?_⟩
          rw [log_of_tryCreate hrun, hlog]
          rfl
        · simp only [Action.orTry, hreplace, hf] at hrun
          obtain ⟨rfl, rfl⟩ := Action.outcome_eq_iff.1 hrun
          exact ⟨_, .renewal rfl rfl rfl fun g hg => isNotFound_of_answer hf hg, hlog⟩
      · simp only [Action.orTry, hreplace, Action.outcome_eq_iff] at hrun
        obtain ⟨rfl, rfl⟩ := hrun
        exact ⟨_, .renewal rfl rfl rfl nofun, Scripted.log_of_perform hreplace⟩
  | @removal ns template existing =>
      let c : Change := ⟨.delete, ns, template, some existing, none⟩
      have hrun : (trials.recorded.delete c.key).forgiving Fault.isNotFound s = (out, s') := h
      rcases hdelete : trials.recorded.delete c.key s with ⟨f | u, mid⟩
      · have hlog := Scripted.log_of_perform hdelete
        by_cases hf : f.isNotFound = true
        · simp only [Action.forgiving, hdelete, hf, if_true, Action.outcome_eq_iff] at hrun
          obtain ⟨rfl, rfl⟩ := hrun
          exact ⟨_, .removalOfMissing rfl hf, hlog⟩
        · simp only [Action.forgiving, hdelete, hf] at hrun
          obtain ⟨rfl, rfl⟩ := Action.outcome_eq_iff.1 hrun
          exact ⟨_, .removal rfl fun g hg => isNotFound_of_answer hf hg, hlog⟩
      · simp only [Action.forgiving, hdelete, Action.outcome_eq_iff] at hrun
        obtain ⟨rfl, rfl⟩ := hrun
        exact ⟨_, .removal rfl nofun, Scripted.log_of_perform hdelete⟩

/-- How trials of changes may come out: all are accepted, or one is refused after those
before it have been accepted, and nothing is called after that. -/
inductive Replays (a : Authority ω) (tree : String) (changes : List Change) :
    List CallRecord → Except Fault Unit → Prop
  | accepted {calls : List CallRecord} (hall : a.TriedAll tree changes calls) :
      Replays a tree changes calls (.ok ())
  | refused {before after : List Change} {c : Change} {calls last : List CallRecord} {why : Fault}
      (hsplit : changes = before ++ c :: after) (hbefore : a.TriedAll tree before calls)
      (hlast : a.Tried tree c last (some why)) :
      Replays a tree changes (calls ++ last) (.error (.escalationOf c.kind c.key c.template why))

/-- Trials go on after one that is accepted. -/
theorem Replays.cons {c : Change} {rest : List Change} {calls more : List CallRecord}
    (hhead : a.Tried tree c calls none) (h : a.Replays tree rest more out) :
    a.Replays tree (c :: rest) (calls ++ more) out := by
  cases h with
  | accepted hall => exact .accepted (.cons hhead hall)
  | refused hsplit hbefore hlast =>
      rw [← List.append_assoc]
      exact .refused (congrArg (c :: ·) hsplit) (.cons hhead hbefore) hlast

/-- **The calls of a list of trials.** -/
theorem replays_of_tryAll {changes : List Change} (hall : ∀ c ∈ changes, c.Complete)
    (h : a.recorded.tryAll trials.recorded tree changes s = (out, s')) :
    ∃ calls, a.Replays tree changes calls out ∧ s'.log = calls.reverse ++ s.log := by
  induction changes generalizing s with
  | nil =>
      obtain ⟨rfl, rfl⟩ := Action.outcome_eq_iff.1 h
      exact ⟨[], .accepted .nil, rfl⟩
  | cons c rest ih =>
      rw [tryAll, Action.bind_run, Action.mapFault] at h
      rcases hhead : a.recorded.tryChange trials.recorded tree c s with ⟨why | u, mid⟩
      · obtain ⟨calls, htried, hlog⟩ := tried_of_tryChange (hall c List.mem_cons_self) hhead
        simp only [hhead, Action.outcome_eq_iff] at h
        obtain ⟨rfl, rfl⟩ := h
        have hsplit : c :: rest = [] ++ c :: rest := rfl
        exact ⟨calls, .refused hsplit .nil htried, hlog⟩
      · obtain ⟨calls, htried, hlog⟩ := tried_of_tryChange (hall c List.mem_cons_self) hhead
        simp only [hhead] at h
        obtain ⟨more, hmore, hlog'⟩ := ih (fun c' hc' => hall c' (List.mem_cons_of_mem _ hc')) h
        refine ⟨calls ++ more, hmore.cons htried, ?_⟩
        rw [hlog', hlog, List.reverse_append, List.append_assoc]

/-- The calls of the review of a write that starts in the world `x`, in order. -/
def writeCalls (a : Authority ω) (r : Requester) (old : Option FolderTree) (new : FolderTree)
    (x : ω) : List CallRecord :=
  (a.recorded.checkWrite r old new (.fresh x)).2.calls

variable {r : Requester} {old : Option FolderTree} {new : FolderTree} {x : ω}

/-- Without a list of changes there is nothing to call. -/
theorem writeCalls_of_conflict {c : Conflict} (h : FolderTree.changesFrom old new = .error c) :
    (a.checkWrite r old new x).1 = .error (.conflict c) ∧ a.writeCalls r old new x = [] := by
  rw [← recorded_checkWrite, writeCalls, checkWrite, h]
  exact ⟨rfl, rfl⟩

/-- Nor is there for an empty one. -/
theorem writeCalls_of_nil (h : FolderTree.changesFrom old new = .ok []) :
    (a.checkWrite r old new x).1 = .ok () ∧ a.writeCalls r old new x = [] := by
  rw [← recorded_checkWrite, writeCalls, checkWrite, h]
  exact ⟨rfl, rfl⟩

/-- Where there are changes, a client is made first. -/
theorem recorded_checkWrite_run {changes : List Change}
    (h : FolderTree.changesFrom old new = .ok changes) (hne : changes ≠ []) :
    a.recorded.checkWrite r old new (.fresh x) =
      (a.recorded.actAs r >>= fun t => a.recorded.tryAll t new.name changes) (.fresh x) := by
  have hnot : ¬changes.isEmpty = true := fun hnil => hne (List.isEmpty_iff.1 hnil)
  rw [checkWrite, h, Action.bind_run]
  show (if changes.isEmpty then (pure () : Action (Scripted ω) Unit)
    else a.recorded.actAs r >>= fun t => a.recorded.tryAll t new.name changes) (.fresh x) = _
  rw [if_neg hnot]

/-- The call that makes a client is the first one. -/
theorem recorded_actAs_run (a : Authority ω) (r : Requester) (x : ω) :
    a.recorded.actAs r (.fresh x) =
      ((a.actAs r x).1.map Trials.recorded,
        ⟨(a.actAs r x).2, [], [⟨.clientFor r, Action.fault? (a.actAs r x).1⟩]⟩) := by
  show (Scripted.perform (.clientFor r) (a.actAs r) >>= fun t => return t.recorded)
    (.fresh x) = _
  rw [Action.bind_run, Scripted.perform]
  simp only [Scripted.fresh, FailureRule.take]
  rcases a.actAs r x with ⟨f | t, w⟩ <;> rfl

/-- If no client can be made, nothing is tried out. -/
theorem writeCalls_of_client_fault {changes : List Change} {f : Fault}
    (h : FolderTree.changesFrom old new = .ok changes) (hne : changes ≠ [])
    (hact : (a.actAs r x).1 = .error f) :
    (a.checkWrite r old new x).1 = .error f ∧
      a.writeCalls r old new x = [⟨.clientFor r, some f⟩] := by
  rw [← recorded_checkWrite, writeCalls, recorded_checkWrite_run h hne, Action.bind_run,
    recorded_actAs_run, hact]
  exact ⟨rfl, rfl⟩

/-- A client that can be made tries out the changes. -/
theorem replays_of_client {changes : List Change} {t : Trials ω}
    (h : FolderTree.changesFrom old new = .ok changes) (hne : changes ≠ [])
    (hcomplete : ∀ c ∈ changes, c.Complete) (hact : (a.actAs r x).1 = .ok t) :
    ∃ calls, a.Replays new.name changes calls (a.checkWrite r old new x).1 ∧
      a.writeCalls r old new x = ⟨.clientFor r, none⟩ :: calls := by
  have hrun : a.recorded.checkWrite r old new (.fresh x) =
      a.recorded.tryAll t.recorded new.name changes
        ⟨(a.actAs r x).2, [], [⟨.clientFor r, none⟩]⟩ := by
    rw [recorded_checkWrite_run h hne, Action.bind_run, recorded_actAs_run, hact]
    rfl
  rw [← recorded_checkWrite, writeCalls, Scripted.calls]
  rcases hend : a.recorded.checkWrite r old new (.fresh x) with ⟨out, s'⟩
  rw [hend] at hrun
  obtain ⟨calls, hreplays, hlog⟩ := replays_of_tryAll hcomplete hrun.symm
  refine ⟨calls, hreplays, ?_⟩
  rw [hlog, List.reverse_append, List.reverse_reverse]
  rfl

end Authority

/-- The real name of a binding is not one that a trial uses. -/
theorem Binding.nameFor_ne_trialNameFor (tree template tree' template' : String) (nanos : Int) :
    nameFor tree template ≠ trialNameFor tree' template' nanos := by
  have hreal : (nameFor tree template).toList.head? = some 'f' := by simp [nameFor]
  have htrial : ∀ digits : String,
      ("dryrun-foldertree-" ++ tree' ++ "-" ++ template' ++ "-" ++ digits).toList.head? =
        some 'd' := by simp
  intro h
  have hboth : some 'f' = some 'd' :=
    hreal.symm.trans ((congrArg (·.toList.head?) h).trans (htrial (toString nanos)))
  exact absurd hboth (by decide)

namespace FolderTree

variable {old : Option FolderTree} {new : FolderTree} {changes : List Change} {c : Change}

/-- A grant of a tree is named after the tree and its template. -/
theorem name_of_grant {t : FolderTree} {set : DesiredSet} (h : t.unownedDesired = .ok set)
    {k : BindingKey} {g : Grant} (hg : set.get? k = some g) :
    g.binding.name = Binding.nameFor t.name g.template.name := by
  obtain ⟨e, -, -, rfl⟩ := (desired_eq_ok_iff.1 h).exists_emission hg
  rfl

/-- A review compares what the new version asks for with what the old one does, if there
is one. -/
theorem exists_baseline_of_changesFrom (h : changesFrom old new = .ok changes) :
    ∃ (baseline : Baseline) (after : DesiredSet), new.unownedDesired = .ok after ∧
      baseline.Keyed ∧ changes = after.changesFrom baseline ∧
      ∀ k held, baseline.get? k = some held →
        ∃ t, old = some t ∧ held.binding.name = Binding.nameFor t.name held.template := by
  cases old with
  | none =>
      obtain ⟨after, hafter, hchanges⟩ := changesFrom_none_eq_ok_iff.1 h
      exact ⟨.empty, after, hafter, Baseline.empty_keyed, hchanges,
        fun k held hheld => by cases hheld⟩
  | some old =>
      obtain ⟨before, after, hbefore, hafter, hchanges⟩ := changesFrom_some_eq_ok_iff.1 h
      refine ⟨before.baseline, after, hafter, (desired_keyed hbefore).baseline, hchanges,
        fun k held hheld => ⟨old, rfl, ?_⟩⟩
      obtain ⟨g, hg, rfl⟩ := DesiredSet.get?_baseline_eq_some_iff.1 hheld
      exact name_of_grant hbefore hg

/-- A change of a review goes by the name of the binding that one of the versions asks
for. -/
theorem bindingName_of_changesFrom (h : changesFrom old new = .ok changes) (hc : c ∈ changes) :
    ∃ t, (t = new ∨ old = some t) ∧ c.bindingName = Binding.nameFor t.name c.template := by
  obtain ⟨baseline, after, hafter, -, rfl, hheld⟩ := exists_baseline_of_changesFrom h
  cases DesiredSet.mem_changesFrom_iff_due.1 hc with
  | creation hg => exact ⟨new, .inl rfl, name_of_grant hafter hg⟩
  | renewal hg => exact ⟨new, .inl rfl, name_of_grant hafter hg⟩
  | removal hstands =>
      obtain ⟨t, hold, hname⟩ := hheld _ _ hstands
      exact ⟨t, .inr hold, hname⟩

/-- What a review looks at carries what its trials need. -/
theorem complete_of_changesFrom (h : changesFrom old new = .ok changes) (hc : c ∈ changes) :
    c.Complete := by
  obtain ⟨baseline, after, hafter, hkeyed, rfl, -⟩ := exists_baseline_of_changesFrom h
  have hwell := DesiredSet.changesFrom_wellFormed (desired_keyed hafter) hkeyed
  exact (hwell.fits c hc).complete

end FolderTree

namespace Authority

/-- **A review replays the changes, up to the first refusal.**  Whoever asks, whatever
the versions are and however the server answers: if one of the versions contradicts
itself, the review says so and calls nothing; if nothing changes, it lets the write
through and calls nothing.  Otherwise it makes one client.  If it gets one, it tries out
the changes one after the other, in order, and lets the write through if all of them are
accepted; the first that is refused ends it, and the refusal names that change, by the
real name of its binding, with what the server reported. -/
theorem write_replays_changes (a : Authority ω) (r : Requester) (old : Option FolderTree)
    (new : FolderTree) (x : ω) :
    (∀ c, FolderTree.changesFrom old new = .error c →
      (a.checkWrite r old new x).1 = .error (.conflict c) ∧ a.writeCalls r old new x = []) ∧
    (FolderTree.changesFrom old new = .ok [] →
      (a.checkWrite r old new x).1 = .ok () ∧ a.writeCalls r old new x = []) ∧
    ∀ changes, FolderTree.changesFrom old new = .ok changes → changes ≠ [] →
      (∀ f, (a.actAs r x).1 = .error f →
        (a.checkWrite r old new x).1 = .error f ∧
          a.writeCalls r old new x = [⟨.clientFor r, some f⟩]) ∧
      (∀ trials, (a.actAs r x).1 = .ok trials →
        ∃ calls, a.writeCalls r old new x = ⟨.clientFor r, none⟩ :: calls ∧
          ((a.checkWrite r old new x).1 = .ok () ∧ a.TriedAll new.name changes calls ∨
            ∃ before c after tried last why, changes = before ++ c :: after ∧
              a.TriedAll new.name before tried ∧ a.Tried new.name c last (some why) ∧
              calls = tried ++ last ∧
              (a.checkWrite r old new x).1 = .error
                (.escalation c.kind.text c.ns c.bindingName c.template why.reported))) ∧
      ∀ c ∈ changes,
        (∃ t, (t = new ∨ old = some t) ∧ c.bindingName = Binding.nameFor t.name c.template) ∧
          ∀ tree template nanos, c.bindingName ≠ Binding.trialNameFor tree template nanos := by
  refine ⟨fun c h => writeCalls_of_conflict h, fun h => writeCalls_of_nil h,
    fun changes h hne => ⟨fun f hact => writeCalls_of_client_fault h hne hact,
      fun trials hact => ?_, fun c hc => ?_⟩⟩
  · have hcomplete : ∀ c ∈ changes, c.Complete :=
      fun c hc => FolderTree.complete_of_changesFrom h hc
    obtain ⟨calls, hreplays, hcalls⟩ := replays_of_client h hne hcomplete hact
    refine ⟨calls, hcalls, ?_⟩
    generalize (a.checkWrite r old new x).1 = out at hreplays
    cases hreplays with
    | accepted hall => exact .inl ⟨rfl, hall⟩
    | refused hsplit hbefore hlast =>
        exact .inr ⟨_, _, _, _, _, _, hsplit, hbefore, hlast, rfl, rfl⟩
  · obtain ⟨t, ht, hname⟩ := FolderTree.bindingName_of_changesFrom h hc
    exact ⟨⟨t, ht, hname⟩, fun _ _ _ => hname ▸ Binding.nameFor_ne_trialNameFor _ _ _ _ _⟩

/-- A server that has lost two bindings of the platform, and lets nobody into the
sandbox. -/
def forgetful : Scripted Unit where
  world := ()
  rules :=
    [{ verb := "replace", fault := .refused ⟨"Failure", "gone", "NotFound", 404⟩ },
     { verb := "delete", fault := .refused ⟨"Failure", "gone", "NotFound", 404⟩ },
     { verb := "create", ns := some "sandbox-ns"
       fault := .refused ⟨"Failure", "keep out", "Forbidden", 403⟩ }]

theorem write_replays_changes_platform :
    ∃ changes, FolderTree.changesFrom (some FolderTree.platform) FolderTree.revisedPlatform =
        .ok changes ∧
      changes.map (·.kind) = [.update, .create, .delete, .create, .delete, .delete] ∧
      (gatekeeper.checkWrite dev (some FolderTree.platform) FolderTree.revisedPlatform
        forgetful).1 = .error
          (.escalation "CREATE" "sandbox-ns" "foldertree-platform-edit" "edit" "keep out") ∧
      ((gatekeeper.writeCalls dev (some FolderTree.platform) FolderTree.revisedPlatform
        forgetful).map fun r => (r.call.verb, r.call.target.text, r.fault.isSome)) =
          [("client_for", "/dev", false),
            ("replace", "org-ns/foldertree-platform-admin", true),
            ("create", "org-ns/dryrun-foldertree-platform-admin-0", false),
            ("create", "org-ns/dryrun-foldertree-platform-inspect-0", false),
            ("delete", "sandbox-ns/foldertree-platform-edit", true),
            ("create", "sandbox-ns/dryrun-foldertree-platform-edit-0", true)] ∧
      ∃ before c after tried last why, changes = before ++ c :: after ∧
        gatekeeper.TriedAll "platform" before tried ∧
        gatekeeper.Tried "platform" c last (some why) ∧
        gatekeeper.writeCalls dev (some FolderTree.platform) FolderTree.revisedPlatform
          forgetful = ⟨.clientFor dev, none⟩ :: (tried ++ last) := by
  obtain ⟨-, -, hchanges⟩ := write_replays_changes gatekeeper dev (some FolderTree.platform)
    FolderTree.revisedPlatform forgetful
  obtain ⟨-, hclient, -⟩ := hchanges _ rfl (by decide)
  obtain ⟨calls, hcalls, houtcome⟩ := hclient Scripted.trials rfl
  have hrefused : (gatekeeper.checkWrite dev (some FolderTree.platform)
      FolderTree.revisedPlatform forgetful).1 = .error
        (.escalation "CREATE" "sandbox-ns" "foldertree-platform-edit" "edit" "keep out") := rfl
  refine ⟨_, rfl, by decide, hrefused, by rfl, ?_⟩
  rcases houtcome with ⟨hok, -⟩ | ⟨before, c, after, tried, last, why, hsplit, hbefore, hlast,
    rfl, -⟩
  · rw [hrefused] at hok
    cases hok
  · exact ⟨before, c, after, tried, last, why, hsplit, hbefore, hlast, hcalls⟩

end Authority

end FolderGrants
