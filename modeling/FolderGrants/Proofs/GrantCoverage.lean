import FolderGrants.Proofs.RecordedTrials

/-!
# Every grant was shown before

A history of one tree: writes that are let through or refused, passes over any
version that was let through, and whatever others do to the cluster in
between.  A write tries out only what it changes, so the grants of a version
may rest on trials of writes long past.  The invariant is that every version
that was let through is *backed*: each binding that it requires has the access
of one that was tried out and accepted before, by a client that acted for the
requester of that write.  The trials of a write are read off its record, which
decides nothing (`Authority.recorded_checkWrite`).

* `History.Step` — what can happen next;
* `History.Sound` — the invariant, and `History.Sound.step`, which keeps it;
* `History.every_grant_was_shown` — no pass sends a binding whose access was
  not shown before.
-/

namespace FolderGrants

/-- What is remembered of a history. -/
inductive History.Entry where
  /-- A write was let through, after these calls in the requester's name. -/
  | admitted (r : Requester) (trials : List CallRecord)
  /-- A pass was made, with these calls. -/
  | passed (calls : List CallRecord)

/-- A history of one tree. -/
structure History (ω : Type) where
  world : ω
  /-- The version that is stored, if there is one. -/
  stored : Option FolderTree := none
  /-- All versions that were let through. -/
  versions : List FolderTree := []
  /-- What happened, latest first. -/
  record : List History.Entry := []

namespace History

variable {ω : Type}

/-- A write that was let through puts `new` in place of what is stored; one that
was not has no effect. -/
def afterWrite {α : Type} (h : History ω) (r : Requester) (new : Option FolderTree)
    (outcome : Except Fault Unit × Scripted α) : History ω :=
  match outcome.1 with
  | .ok () =>
    { h with
      stored := new
      versions := new.toList ++ h.versions
      record := .admitted r outcome.2.calls :: h.record }
  | .error _ => h

/-- A pass leaves the world as its last call did. -/
def afterPass (h : History ω) (s : Scripted ω) : History ω :=
  { h with world := s.world, record := .passed s.calls :: h.record }

/-- What can happen next to the tree called `name`.  Each write has a requester
and an authority of its own, and each pass a server of its own; the stored
tree may have been restated since it was let through. -/
inductive Step (name : String) (h : History ω) : History ω → Prop
  | create {α : Type} (a : Authority α) (x : α) (r : Requester) {new : FolderTree}
      (hname : new.name = name) (hstored : h.stored = none) :
      Step name h (h.afterWrite r (some new) (a.recorded.checkWrite r none new (.fresh x)))
  | update {α : Type} (a : Authority α) (x : α) (r : Requester) {v old new : FolderTree}
      (hname : new.name = name) (hstored : h.stored = some v) (hold : old.Restates v) :
      Step name h (h.afterWrite r (some new) (a.recorded.checkWrite r (some old) new (.fresh x)))
  | delete {α : Type} (a : Authority α) (x : α) (r : Requester) {v old : FolderTree}
      (hstored : h.stored = some v) (hold : old.Restates v) :
      Step name h (h.afterWrite r none (a.recorded.checkDelete r old (.fresh x)))
  | pass (api : Api ω) (now : Instant) {v t : FolderTree} (hv : v ∈ h.versions)
      (ht : t.Restates v) :
      Step name h (h.afterPass (t.reconcile (Scripted.api api) now (.fresh h.world)).2)
  /-- Others change the cluster as they like. -/
  | others (w : ω) : Step name h { h with world := w }

/-- A history that begins without any tree and goes on step by step. -/
inductive Reachable (name : String) : History ω → Prop
  | start (w : ω) : Reachable name { world := w }
  | step {h h' : History ω} (hreach : Reachable name h) (hstep : Step name h h') :
      Reachable name h'

/-- Some write was let through after a client that acted for its requester, the only one
that was made, had been asked and had answered what satisfies `P`. -/
def Answered (record : List Entry) (P : List CallRecord → Prop) : Prop :=
  ∃ r calls, Entry.admitted r calls ∈ record ∧ AnsweredFor r calls P

/-- Some requester has shown the access of `b`. -/
def Shown (record : List Entry) (b : Binding) : Prop :=
  Answered record fun trials => TriedOut trials b

/-- Each binding that the tree requires has been shown. -/
def Backed (record : List Entry) (v : FolderTree) : Prop :=
  ∃ set, v.unownedDesired = .ok set ∧ ∀ k g, set.get? k = some g → Shown record g.binding

/-- What was answered stays on the record. -/
theorem Answered.cons {record : List Entry} {P : List CallRecord → Prop}
    (h : Answered record P) (e : Entry) : Answered (e :: record) P := by
  obtain ⟨r, calls, hmem, hanswered⟩ := h
  exact ⟨r, calls, List.mem_cons_of_mem _ hmem, hanswered⟩

/-- A binding that was shown counts for every other one of its access. -/
theorem Shown.sameAccess {record : List Entry} {b b' : Binding} (h : Shown record b)
    (hb : b.SameAccess b') : Shown record b' := by
  obtain ⟨r, calls, hmem, trials, hcalls, hclientless, htried⟩ := h
  exact ⟨r, calls, hmem, trials, hcalls, hclientless, htried.sameAccess hb⟩

/-- A backed tree stays so, whatever happens. -/
theorem Backed.cons {record : List Entry} {v : FolderTree} (h : Backed record v) (e : Entry) :
    Backed (e :: record) v := by
  obtain ⟨set, hset, hshown⟩ := h
  exact ⟨set, hset, fun k g hg => (hshown k g hg).cons e⟩

/-- Whether a tree is backed hangs on its name and its specification. -/
theorem Backed.restated {record : List Entry} {v t : FolderTree} (h : Backed record v)
    (ht : t.Restates v) : Backed record t := by
  obtain ⟨set, hset, hshown⟩ := h
  exact ⟨set, ht.unownedDesired_eq.trans hset, hshown⟩

/-- What a pass over a backed tree sends has been shown. -/
theorem Backed.shown_of_wants {record : List Entry} {t : FolderTree} {b : Binding}
    (h : Backed record t) (hb : t.Wants b) : Shown record b := by
  obtain ⟨set, hset, hshown⟩ := h
  obtain ⟨owned, k, g, howned, hg, haccess⟩ := hb
  obtain ⟨g', hg', haccess'⟩ := FolderTree.unowned_sameAccess_owned (.refl t) howned hset hg
  exact (hshown k g' hg').sameAccess (haccess'.trans haccess.symm)

/-- The changes from a baseline that has been shown make a tree backed. -/
theorem backed_of_changes {record : List Entry} {new : FolderTree} {after : DesiredSet}
    {baseline : Baseline} (hafter : new.unownedDesired = .ok after) (hkeyed : baseline.Keyed)
    (hbaseline : ∀ k held, baseline.get? k = some held → Shown record held.binding)
    (hchanges : ∀ c ∈ after.changesFrom baseline, ∀ b, c.written? = some b → Shown record b) :
    Backed record new := by
  have hafter' : after.Keyed := FolderTree.desired_keyed hafter
  refine ⟨after, hafter, fun k g hg => ?_⟩
  have hns : ∀ b : Binding, b.key = k → b.key.ns = g.binding.key.ns := by
    intro b hb
    rw [hb, hafter' k g hg]
  rcases DesiredSet.exists_written_or_serves hafter' hkeyed hg with hwritten | hheld
  · obtain ⟨c, hc, b, hb, hkey, hserves⟩ := hwritten
    exact (hchanges c hc b hb).sameAccess (hserves.sameAccess (hns b hkey))
  · obtain ⟨held, hheld, hserves⟩ := hheld
    exact (hbaseline k held hheld).sameAccess (hserves.sameAccess (hns _ (hkeyed k held hheld)))

/-- A write that is let through over a backed version makes the next one backed. -/
theorem backed_of_checkWrite {α : Type} {a : Authority α} {r : Requester} {x : α}
    {s' : Scripted α} {record : List Entry} {old : Option FolderTree} {new : FolderTree}
    (hold : ∀ v, old = some v → Backed record v)
    (h : a.recorded.checkWrite r old new (.fresh x) = (.ok (), s')) :
    Backed (.admitted r s'.calls :: record) new := by
  obtain ⟨changes, hchanges, htried⟩ := Authority.triedOut_of_checkWrite h
  have hshown : ∀ c ∈ changes, ∀ b, c.written? = some b →
      Shown (.admitted r s'.calls :: record) b :=
    fun c hc b hb => ⟨r, s'.calls, List.mem_cons_self, htried c hc b hb⟩
  cases old with
  | none =>
      obtain ⟨after, hafter, rfl⟩ := FolderTree.changesFrom_none_eq_ok_iff.1 hchanges
      refine backed_of_changes hafter Baseline.empty_keyed ?_ hshown
      intro k held hheld
      rw [OrderedMap.get?_empty] at hheld
      cases hheld
  | some v =>
      obtain ⟨before, after, hbefore, hafter, rfl⟩ :=
        FolderTree.changesFrom_some_eq_ok_iff.1 hchanges
      have hbacked : Backed (.admitted r s'.calls :: record) v := (hold v rfl).cons _
      obtain ⟨before', hbefore', hbaseline⟩ := hbacked
      obtain rfl := Except.ok.inj (hbefore.symm.trans hbefore')
      refine backed_of_changes hafter (FolderTree.desired_keyed hbefore).baseline ?_ hshown
      intro k held hheld
      obtain ⟨g, hg, rfl⟩ := DesiredSet.get?_baseline_eq_some_iff.1 hheld
      exact hbaseline k g hg

/-- What holds throughout a history: the stored version was let through, all
versions are backed, and whatever a pass sent had been shown. -/
structure Sound (h : History ω) : Prop where
  stored : ∀ v, h.stored = some v → v ∈ h.versions
  versions : ∀ v ∈ h.versions, Backed h.record v
  passes : ∀ later calls earlier, h.record = later ++ .passed calls :: earlier →
    ∀ c ∈ calls, ∀ b, c.call.written? = some b → Shown earlier b

/-- Where nothing has happened yet, nothing is amiss. -/
theorem sound_start (w : ω) : Sound { world := w : History ω } where
  stored _ h := by cases h
  versions _ h := by cases h
  passes later _ _ h := by cases later <;> cases h

/-- What is known of the calls of all passes is not touched by a new entry, unless
that is a pass. -/
theorem passes_cons {P : List Entry → CallRecord → Prop} {record : List Entry} {e : Entry}
    (hrecord : ∀ later calls earlier, record = later ++ .passed calls :: earlier →
      ∀ c ∈ calls, P earlier c)
    (he : ∀ calls, e = .passed calls → ∀ c ∈ calls, P record c)
    (later : List Entry) (calls : List CallRecord) (earlier : List Entry)
    (hsplit : e :: record = later ++ .passed calls :: earlier) : ∀ c ∈ calls, P earlier c := by
  cases later with
  | nil =>
      obtain ⟨rfl, rfl⟩ := List.cons.inj hsplit
      exact he calls rfl
  | cons e' later => exact hrecord later calls earlier (List.cons.inj hsplit).2

/-- A write keeps a history sound if it leaves a backed version or none. -/
theorem Sound.afterWrite {α : Type} {h : History ω} (hsound : h.Sound) {r : Requester}
    {new : Option FolderTree} {outcome : Except Fault Unit × Scripted α}
    (hnew : outcome.1 = .ok () → ∀ v, new = some v →
      Backed (.admitted r outcome.2.calls :: h.record) v) :
    (h.afterWrite r new outcome).Sound := by
  unfold History.afterWrite
  cases hok : outcome.1 with
  | error f => exact hsound
  | ok u =>
      refine ⟨?_, ?_, passes_cons hsound.passes fun _ he => by cases he⟩
      · intro v hv
        have hv' : new = some v := hv
        simp [hv']
      · intro v hv
        rcases List.mem_append.1 hv with hv | hv
        · exact hnew hok v (Option.mem_toList.1 hv)
        · exact (hsound.versions v hv).cons _

/-- **No step brings in an access that was not shown.** -/
theorem Sound.step {name : String} {h h' : History ω} (hsound : h.Sound) (hstep : Step name h h') :
    h'.Sound := by
  cases hstep with
  | create a x r hname hstored =>
      refine hsound.afterWrite fun hok v hv => ?_
      obtain rfl := Option.some.inj hv
      refine backed_of_checkWrite (fun _ h => ?_) (Prod.ext hok rfl)
      cases h
  | update a x r hname hstored hold =>
      refine hsound.afterWrite fun hok v hv => ?_
      obtain rfl := Option.some.inj hv
      refine backed_of_checkWrite (fun v' h => ?_) (Prod.ext hok rfl)
      obtain rfl := Option.some.inj h
      exact (hsound.versions _ (hsound.stored _ hstored)).restated hold
  | delete a x r hstored hold =>
      refine hsound.afterWrite fun _ v hv => ?_
      cases hv
  | @pass api now v t hv ht =>
      refine ⟨hsound.stored, fun v hv => (hsound.versions v hv).cons _, ?_⟩
      refine passes_cons hsound.passes fun calls he c hc b hb => ?_
      obtain rfl := Entry.passed.inj he
      have hbacked : Backed h.record t := (hsound.versions v hv).restated ht
      have hsent := t.reconcile_writesOnly api now (.fresh h.world) c (List.mem_reverse.1 hc)
      rcases hsent with hold | hwants
      · cases hold
      · exact hbacked.shown_of_wants (hwants b hb)
  | others w => exact ⟨hsound.stored, hsound.versions, hsound.passes⟩

/-- Every history is sound. -/
theorem Reachable.sound {name : String} {h : History ω} (hreach : h.Reachable name) :
    h.Sound := by
  induction hreach with
  | start w => exact sound_start w
  | step _ hstep ih => exact ih.step hstep

/-- **No unauthorised grant reaches the cluster.**  Whatever a pass sends to be
created or to replace another binding, some write before it was let through
after a client for its requester had been made, and no other client, and this
one had created or replaced, on trial and with success, a binding in the same
namespace with the same role and the same subjects. -/
theorem every_grant_was_shown {name : String} {h : History ω} (hreach : h.Reachable name)
    {later earlier : List Entry} {calls : List CallRecord}
    (hrecord : h.record = later ++ .passed calls :: earlier) {c : CallRecord} (hc : c ∈ calls)
    {b : Binding} (hb : c.call = .create b ∨ c.call = .replace b) :
    ∃ r trials, Entry.admitted r (⟨.clientFor r, none⟩ :: trials) ∈ earlier ∧
      (∀ c' ∈ trials, ∀ other, c'.call ≠ .clientFor other) ∧
      ∃ c' ∈ trials, c'.fault = none ∧
        ∃ b', (c'.call = .create b' ∨ c'.call = .replace b') ∧
          b'.key.ns = b.key.ns ∧ b'.roleRef = b.roleRef ∧
          Subject.SameSet b'.subjectList b.subjectList := by
  have hwritten : c.call.written? = some b := Call.written?_eq_some_iff.2 hb
  obtain ⟨r, _, hadmitted, trials, rfl, hclientless, c', hc', hok, b', hb', haccess⟩ :=
    hreach.sound.passes later calls earlier hrecord c hc b hwritten
  exact ⟨r, trials, hadmitted, hclientless, c', hc', hok, b', Call.written?_eq_some_iff.1 hb',
    haccess.ns, haccess.roleRef, haccess.subjects⟩

/-- A tree that lets a developer edit in some namespaces. -/
def team (namespaces : List String) : FolderTree where
  metadata := { name := some "team" }
  spec :=
    { folders :=
        [{ name := "dev"
           templates := [⟨"edit", [.user "ada"], .clusterRole "edit", none⟩]
           namespaces }] }

/-- An authority that accepts every trial. -/
def openAuthority : Authority (Scripted Unit) := Scripted.authority [] none

/-- The tree is created for one namespace. -/
def founded : History Cluster :=
  ({ world := { namespaces := .ofList [("a", ()), ("b", ())] } } : History Cluster).afterWrite
    ⟨"root", none, []⟩ (some (team ["a"]))
    (openAuthority.recorded.checkWrite ⟨"root", none, []⟩ none (team ["a"]) (.fresh (.fresh ())))

/-- Somebody else adds another namespace. -/
def widened : History Cluster :=
  founded.afterWrite ⟨"bob", none, []⟩ (some (team ["a", "b"]))
    (openAuthority.recorded.checkWrite ⟨"bob", none, []⟩ (some (team ["a"])) (team ["a", "b"])
      (.fresh (.fresh ())))

/-- A pass follows. -/
def settled : History Cluster :=
  widened.afterPass
    ((team ["a", "b"]).reconcile (Scripted.api Cluster.api) ⟨0, 0⟩ (.fresh widened.world)).2

/-- The tree may be created. -/
theorem founded_reachable : founded.Reachable "team" :=
  .step (.start _) (.create _ _ _ rfl rfl)

/-- It may be widened by somebody else. -/
theorem widened_reachable : widened.Reachable "team" :=
  .step founded_reachable (.update (v := team ["a"]) _ _ _ rfl rfl (.refl _))

/-- A pass may follow. -/
theorem settled_reachable : settled.Reachable "team" :=
  .step widened_reachable
    (.pass (v := team ["a", "b"]) (t := team ["a", "b"]) _ _ List.mem_cons_self (.refl _))

/-- Two writes, each with one client for its own requester, and a pass that sends a binding
for the namespace of the first. -/
theorem every_grant_was_shown_team :
    settled.Reachable "team" ∧
      ∃ sent byRoot byBob,
        settled.record =
          [.passed sent,
            .admitted ⟨"bob", none, []⟩ (⟨.clientFor ⟨"bob", none, []⟩, none⟩ :: byBob),
            .admitted ⟨"root", none, []⟩ (⟨.clientFor ⟨"root", none, []⟩, none⟩ :: byRoot)] ∧
        ∃ b, ⟨.create b, none⟩ ∈ sent ∧ b.key = ⟨"a", "foldertree-team-edit"⟩ ∧
          ∃ r trials,
            Entry.admitted r (⟨.clientFor r, none⟩ :: trials) ∈ widened.record ∧
            (∀ c ∈ trials, ∀ other, c.call ≠ .clientFor other) ∧
            ∃ c ∈ trials, c.fault = none ∧
              ∃ b', (c.call = .create b' ∨ c.call = .replace b') ∧
                b'.key.ns = b.key.ns ∧ b'.roleRef = b.roleRef ∧
                Subject.SameSet b'.subjectList b.subjectList := by
  have hrecord : settled.record = [] ++ .passed _ :: widened.record := rfl
  have hsent : ∃ b, ⟨.create b, none⟩ ∈ ((team ["a", "b"]).reconcile (Scripted.api Cluster.api)
      ⟨0, 0⟩ (.fresh widened.world)).2.calls ∧ b.key = ⟨"a", "foldertree-team-edit"⟩ :=
    ⟨_, List.mem_of_getElem? (i := 2) rfl, rfl⟩
  obtain ⟨b, hmem, hkey⟩ := hsent
  exact ⟨settled_reachable, _, _, _, rfl, b, hmem, hkey,
    every_grant_was_shown settled_reachable hrecord hmem (.inl rfl)⟩

end History

end FolderGrants
