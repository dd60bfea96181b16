import FolderGrants.Proofs.MadeChanges
import FolderGrants.Proofs.RecordedCalls
import FolderGrants.Proofs.Recording
import FolderGrants.Proofs.Trials

/-!
# What an accepted write has shown

The trials of a write are recorded whatever the server answers to them.  If
the write is let through, every binding that one of its changes would write
was tried out in the requester's name and accepted: under the name that the
binding will have, or under a trial name, but with the same access.  Every
binding that one of its changes would delete was deleted on trial, or was not
there.

Whose client has answered can be told from the record too.  It begins with the
call that makes the client, and no other client is made after that.

* `TriedOut` — an accepted trial gave the access of a binding;
* `DeletionTried` — the deletion of a binding was tried out;
* `AnsweredFor` — the one client of a review acted for the requester;
* `Scripted.Asked` — what was recorded between two states, without a client;
* `Authority.triedOut_of_checkWrite`, `Authority.deletionTried_of_checkWrite` —
  what a write that is let through has shown;
* `Authority.deletionTried_of_checkDelete` — what a deletion that is let through
  has shown.
-/

namespace FolderGrants

variable {ω : Type}

/-- Among the recorded calls is one that was accepted and gave the access of `b`. -/
def TriedOut (log : List CallRecord) (b : Binding) : Prop :=
  ∃ r ∈ log, r.fault = none ∧ ∃ b', r.call.written? = some b' ∧ b'.SameAccess b

/-- What was tried out is so in any longer record. -/
theorem TriedOut.mono {log log' : List CallRecord} {b : Binding} (h : TriedOut log b)
    (hlog : log ⊆ log') : TriedOut log' b := by
  obtain ⟨r, hr, hok, hb⟩ := h
  exact ⟨r, hlog hr, hok, hb⟩

/-- A trial counts for every binding of the same access. -/
theorem TriedOut.sameAccess {log : List CallRecord} {b b' : Binding} (h : TriedOut log b)
    (hb : b.SameAccess b') : TriedOut log b' := by
  obtain ⟨r, hr, hok, b₀, hwritten, hb₀⟩ := h
  exact ⟨r, hr, hok, b₀, hwritten, hb₀.trans hb⟩

/-- Among the recorded calls is a deletion at `key` that was accepted, or found
nothing. -/
def DeletionTried (log : List CallRecord) (key : BindingKey) : Prop :=
  ∃ r ∈ log, r.call = .delete key ∧
    (r.fault = none ∨ ∃ f, r.fault = some f ∧ f.isNotFound = true)

/-- A deletion that was tried out is so in any longer record. -/
theorem DeletionTried.mono {log log' : List CallRecord} {key : BindingKey}
    (h : DeletionTried log key) (hlog : log ⊆ log') : DeletionTried log' key := by
  obtain ⟨r, hr, hdelete⟩ := h
  exact ⟨r, hlog hr, hdelete⟩

/-- The calls begin with one that makes a client for `r`; no other client is made, and what
this one was asked and answered satisfies `P`. -/
def AnsweredFor (r : Requester) (calls : List CallRecord) (P : List CallRecord → Prop) : Prop :=
  ∃ trials, calls = ⟨.clientFor r, none⟩ :: trials ∧
    (∀ c ∈ trials, ∀ other, c.call ≠ .clientFor other) ∧ P trials

/-- A trial name takes nothing from the access that is tried out. -/
theorem Binding.forTrial_sameAccess (b : Binding) (tree template : String) (nanos : Int) :
    (b.forTrial tree template nanos).SameAccess b :=
  ⟨rfl, rfl, .refl _⟩

namespace Scripted

variable {α : Type} {c : Call} {act : Action ω α} {s mid s' : Scripted ω}
  {asked more : List CallRecord}

/-- From `s` to `s'` just these calls were recorded, the latest first, and none of them made
a client. -/
structure Asked (asked : List CallRecord) (s s' : Scripted ω) : Prop where
  log : s'.log = asked ++ s.log
  clientless : ∀ r ∈ asked, ∀ other, r.call ≠ .clientFor other

/-- Where nothing happens, nothing is recorded. -/
theorem Asked.refl (s : Scripted ω) : Asked [] s s where
  log := (List.nil_append s.log).symm
  clientless _ hr := absurd hr List.not_mem_nil

/-- The later calls stand before the earlier ones. -/
theorem Asked.trans (h : Asked asked s mid) (h' : Asked more mid s') :
    Asked (more ++ asked) s s' where
  log := by rw [h'.log, h.log, List.append_assoc]
  clientless r hr := (List.mem_append.1 hr).elim (h'.clientless r) (h.clientless r)

/-- A call that makes no client is recorded with its answer. -/
theorem asked_of_perform {out : Except Fault α} (h : perform c act s = (out, s'))
    (hc : ∀ other, c ≠ .clientFor other) : Asked [⟨c, Action.fault? out⟩] s s' where
  log := log_of_perform h
  clientless r hr := by
    obtain rfl := List.mem_singleton.1 hr
    exact hc

end Scripted

/-- What each of several steps asks is asked by the run of all of them. -/
theorem Chain.exists_asked {ι : Type} {R : ι → Scripted ω → Scripted ω → Prop}
    {P : ι → List CallRecord → Prop} {items : List ι} {s s' : Scripted ω}
    (hmono : ∀ i log log', P i log → log ⊆ log' → P i log')
    (hstep : ∀ i s s', R i s s' → ∃ asked, Scripted.Asked asked s s' ∧ P i asked)
    (h : Chain R items s s') : ∃ asked, Scripted.Asked asked s s' ∧ ∀ i ∈ items, P i asked := by
  induction h with
  | nil s => exact ⟨[], .refl s, fun i hi => absurd hi List.not_mem_nil⟩
  | cons head _ ih =>
      obtain ⟨asked, hasked, hhead⟩ := hstep _ _ _ head
      obtain ⟨more, hmore, htail⟩ := ih
      refine ⟨more ++ asked, hasked.trans hmore, List.forall_mem_cons.2 ⟨?_, fun i hi => ?_⟩⟩
      · exact hmono _ _ _ hhead (List.subset_append_right more asked)
      · exact hmono _ _ _ (htail i hi) (List.subset_append_left more asked)

/-- What was asked shows what a change would write, and what it would delete. -/
structure Change.ShownBy (c : Change) (asked : List CallRecord) : Prop where
  written : ∀ b, c.written? = some b → TriedOut asked b
  deleted : c.kind = .delete → DeletionTried asked c.key

/-- A change that is shown is so in any longer record. -/
theorem Change.ShownBy.mono {c : Change} {log log' : List CallRecord} (h : c.ShownBy log)
    (hlog : log ⊆ log') : c.ShownBy log' :=
  ⟨fun b hb => (h.written b hb).mono hlog, fun hkind => (h.deleted hkind).mono hlog⟩

/-- A change that writes one binding is shown by a trial of that binding. -/
theorem Change.shownBy_of_written {c : Change} {asked : List CallRecord} {b : Binding}
    (hwritten : c.written? = some b) (htried : TriedOut asked b) : c.ShownBy asked where
  written b' hb' := by
    obtain rfl := Option.some.inj (hwritten.symm.trans hb')
    exact htried
  deleted hkind := by
    have hnone := Change.written?_of_delete hkind
    rw [hwritten] at hnone
    cases hnone

/-- A removal is shown by a trial of the deletion. -/
theorem Change.shownBy_of_deleted {c : Change} {asked : List CallRecord}
    (hkind : c.kind = .delete) (htried : DeletionTried asked c.key) : c.ShownBy asked where
  written b hb := by
    rw [Change.written?_of_delete hkind] at hb
    cases hb
  deleted _ := htried

namespace Authority

variable {a : Authority ω} {trials : Trials ω} {tree : String} {c : Change}
  {s s' : Scripted ω}

/-- The trial of a deletion asks for it. -/
theorem AcceptsDeletion.exists_asked {key : BindingKey}
    (h : AcceptsDeletion trials.recorded key s s') :
    ∃ asked, Scripted.Asked asked s s' ∧ DeletionTried asked key := by
  rcases h with hdelete | ⟨f, hdelete, hmissing⟩
  · exact ⟨_, Scripted.asked_of_perform hdelete nofun, _, List.mem_cons_self, rfl, .inl rfl⟩
  · exact ⟨_, Scripted.asked_of_perform hdelete nofun, _, List.mem_cons_self, rfl,
      .inr ⟨f, rfl, hmissing⟩⟩

/-- A binding that is tried out as a creation was asked for, though under a trial name. -/
theorem asked_of_forTrial {b : Binding} {template : String}
    (h : trials.recorded.create (b.forTrial tree template (a.recorded.clock s).1)
      (a.recorded.clock s).2 = (.ok (), s')) :
    ∃ r, Scripted.Asked [r] s s' ∧ TriedOut [r] b := by
  -- Reading the clock leaves the record as it is.
  have hasked := Scripted.asked_of_perform h nofun
  exact ⟨_, ⟨hasked.log, hasked.clientless⟩, _, List.mem_cons_self, rfl, _, rfl,
    Binding.forTrial_sameAccess _ _ _ _⟩

/-- **An accepted change was shown** by what was asked for its trial. -/
theorem Accepts.exists_asked (h : a.recorded.Accepts trials.recorded tree c s s') :
    ∃ asked, Scripted.Asked asked s s' ∧ c.ShownBy asked := by
  cases h with
  | create hkind hdesired hcreate =>
      obtain ⟨r, hasked, htried⟩ := asked_of_forTrial hcreate
      exact ⟨[r], hasked,
        Change.shownBy_of_written (Change.written?_of_create hkind hdesired) htried⟩
  | @update existing desired _ _ hkind hexisting hdesired hreplace =>
      have hasked := Scripted.asked_of_perform hreplace nofun
      have htried : TriedOut [⟨.replace (existing.refreshed desired), none⟩]
          (existing.refreshed desired) := ⟨_, List.mem_cons_self, rfl, _, rfl, .refl _⟩
      exact ⟨_, hasked,
        Change.shownBy_of_written (Change.written?_of_update hkind hexisting hdesired) htried⟩
  | updateMissing hkind hexisting hdesired hreplace _ hcreate =>
      -- The replacement that found nothing stays on the record before the creation.
      have hmissing := Scripted.asked_of_perform hreplace nofun
      obtain ⟨r, hasked, htried⟩ := asked_of_forTrial hcreate
      exact ⟨_, hmissing.trans hasked,
        Change.shownBy_of_written (Change.written?_of_update hkind hexisting hdesired)
          (htried.mono (List.subset_append_left _ _))⟩
  | delete hkind hdelete =>
      obtain ⟨asked, hasked, htried⟩ := AcceptsDeletion.exists_asked (.inl hdelete)
      exact ⟨asked, hasked, Change.shownBy_of_deleted hkind htried⟩
  | deleteMissing hkind hdelete hmissing =>
      obtain ⟨asked, hasked, htried⟩ :=
        AcceptsDeletion.exists_asked (.inr ⟨_, hdelete, hmissing⟩)
      exact ⟨asked, hasked, Change.shownBy_of_deleted hkind htried⟩

/-- **One client answers for the requester.**  If a review has something to try out and
lets it through, it has made one client, for the requester, and each of the trials is in
what that client was asked. -/
theorem AcceptsAll.answeredFor {ι : Type} {r : Requester} {items : List ι} {i : ι} {x : ω}
    {R : Trials (Scripted ω) → ι → Scripted ω → Scripted ω → Prop}
    {P : ι → List CallRecord → Prop}
    (hmono : ∀ i log log', P i log → log ⊆ log' → P i log')
    (hstep : ∀ (t : Trials ω) i s s', R t.recorded i s s' →
      ∃ asked, Scripted.Asked asked s s' ∧ P i asked)
    (h : a.recorded.AcceptsAll r R items (.fresh x) s') (hi : i ∈ items) :
    AnsweredFor r s'.calls (P i) := by
  cases h with
  | nothing => cases hi
  | trials hitems hact hchain =>
      obtain ⟨t, mid, hclient, hrecorded⟩ := Action.bind_eq_ok_iff.1 hact
      obtain ⟨rfl, rfl⟩ := Action.pure_eq_ok_iff.1 hrecorded
      have hfirst : mid.log = [⟨.clientFor r, none⟩] := Scripted.log_of_perform_eq_ok hclient
      obtain ⟨asked, hasked, hshown⟩ := hchain.exists_asked hmono (hstep t)
      refine ⟨asked.reverse, ?_, fun c hc => hasked.clientless c (List.mem_reverse.1 hc),
        hmono i _ _ (hshown i hi) fun c hc => List.mem_reverse.2 hc⟩
      rw [Scripted.calls, hasked.log, hfirst, List.reverse_append]
      rfl

variable {r : Requester} {old : Option FolderTree} {new t : FolderTree} {x : ω}

/-- Each change of a write that is let through was shown to a client of the requester. -/
theorem shownBy_of_checkWrite (h : a.recorded.checkWrite r old new (.fresh x) = (.ok (), s')) :
    ∃ changes, FolderTree.changesFrom old new = .ok changes ∧
      ∀ c ∈ changes, AnsweredFor r s'.calls c.ShownBy := by
  obtain ⟨changes, hchanges, haccepts⟩ := checkWrite_eq_ok_iff.1 h
  refine ⟨changes, hchanges, fun c hc => ?_⟩
  exact haccepts.answeredFor (fun _ _ _ => Change.ShownBy.mono)
    (fun _ _ _ _ => Accepts.exists_asked) hc

/-- **A write shows what it will write.**  If a write is let through, each of its
changes had its binding tried out and accepted, by a client of the requester. -/
theorem triedOut_of_checkWrite (h : a.recorded.checkWrite r old new (.fresh x) = (.ok (), s')) :
    ∃ changes, FolderTree.changesFrom old new = .ok changes ∧
      ∀ c ∈ changes, ∀ b, c.written? = some b →
        AnsweredFor r s'.calls fun trials => TriedOut trials b := by
  obtain ⟨changes, hchanges, hshown⟩ := shownBy_of_checkWrite h
  refine ⟨changes, hchanges, fun c hc b hb => ?_⟩
  obtain ⟨trials, hcalls, hclientless, hall⟩ := hshown c hc
  exact ⟨trials, hcalls, hclientless, hall.written b hb⟩

/-- **A write shows what it will take away.**  If a write is let through, each of
its removals was tried out by a client of the requester. -/
theorem deletionTried_of_checkWrite
    (h : a.recorded.checkWrite r old new (.fresh x) = (.ok (), s')) :
    ∃ changes, FolderTree.changesFrom old new = .ok changes ∧
      ∀ c ∈ changes, c.kind = .delete →
        AnsweredFor r s'.calls fun trials => DeletionTried trials c.key := by
  obtain ⟨changes, hchanges, hshown⟩ := shownBy_of_checkWrite h
  refine ⟨changes, hchanges, fun c hc hkind => ?_⟩
  obtain ⟨trials, hcalls, hclientless, hall⟩ := hshown c hc
  exact ⟨trials, hcalls, hclientless, hall.deleted hkind⟩

/-- A requester who is not trusted has tried out the deletion of all that the tree
requires, by a client of their own. -/
theorem deletionTried_of_checkDelete (htrust : a.trusts r.username = false)
    (h : a.recorded.checkDelete r t (.fresh x) = (.ok (), s')) :
    ∃ desired, t.unownedDesired = .ok desired ∧
      ∀ k ∈ desired.keys, AnsweredFor r s'.calls fun trials => DeletionTried trials k := by
  have htrust' : a.recorded.trusts r.username = false := htrust
  obtain ⟨desired, hdesired, haccepts⟩ := (checkDelete_eq_ok_iff htrust').1 h
  refine ⟨desired, hdesired, fun k hk => ?_⟩
  exact haccepts.answeredFor (P := fun k trials => DeletionTried trials k)
    (fun _ _ _ => DeletionTried.mono) (fun _ _ _ _ => AcceptsDeletion.exists_asked) hk

end Authority

end FolderGrants
