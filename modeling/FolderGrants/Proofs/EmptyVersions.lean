import FolderGrants.Proofs.MadeChanges
import FolderGrants.Proofs.Recording

/-!
# Versions that ask for nothing

A version with an empty specification emits nothing, and so requires nothing.  As
the stored version it is as good as none, and as the new version it calls for the
removal of all that stands.  To create a tree is therefore to update it from such a
version, and to delete it is to update it to one.  A deletion is reviewed by a walk
of its own, though, over the desired set and not over a list of changes, with
refusals of its own; that this is the same review rests on every binding standing
at the key that its name and namespace spell out.

* `FolderTree.changesFrom_of_empty`, `FolderTree.changesFrom_to_empty` — the changes
  from an empty version and to one;
* `Authority.tryAll_removals` — the two walks try out the same;
* `Authority.empty_version_for_none` — creations and deletions are reviewed as
  updates.
-/

namespace FolderGrants

/-- Where nothing is required, all that is held is removed. -/
theorem DesiredSet.empty_changesFrom (baseline : Baseline) :
    DesiredSet.changesFrom .empty baseline =
      baseline.entries.map fun e => .removal e.1 e.2 := by
  have hall : (baseline.filter fun k _ => !(.empty : DesiredSet).contains k).entries =
      baseline.entries := List.filter_eq_self.2 fun _ _ => rfl
  rw [changesFrom, hall]
  rfl

namespace FolderTree

variable {t e : FolderTree}

/-- Without a specification nothing is required. -/
theorem unownedDesired_of_empty (h : e.spec = {}) : e.unownedDesired = .ok .empty := by
  rw [unownedDesired, desired, h]
  rfl

/-- An empty version is as good as none. -/
theorem changesFrom_of_empty (h : e.spec = {}) (t : FolderTree) :
    changesFrom (some e) t = changesFrom none t := by
  simp only [changesFrom, unownedDesired_of_empty h]

/-- The removal of what is required at a key. -/
def withdrawal (x : BindingKey × Grant) : Change :=
  .removal x.1 ⟨x.2.binding, x.2.template.name⟩

/-- All that a tree requires is withdrawn by an empty version. -/
theorem changesFrom_to_empty (h : e.spec = {}) (t : FolderTree) :
    changesFrom (some t) e = t.unownedDesired.map fun set => set.entries.map withdrawal := by
  cases hset : t.unownedDesired with
  | error c => simp only [changesFrom, hset]; rfl
  | ok set =>
      have hchanges : changesFrom (some t) e =
          .ok (DesiredSet.changesFrom .empty set.baseline) :=
        changesFrom_some_eq_ok_iff.2 ⟨set, .empty, hset, unownedDesired_of_empty h, rfl⟩
      rw [hchanges, DesiredSet.empty_changesFrom, DesiredSet.baseline, OrderedMap.mapValues,
        List.map_map]
      rfl

end FolderTree

namespace Authority

variable {σ : Type}

/-- What stands at its own key is tried out alike in both walks, and refused alike. -/
theorem tryAll_removals (a : Authority σ) (trials : Trials σ) (tree : String)
    {entries : List (BindingKey × Grant)} (hkeyed : ∀ x ∈ entries, x.2.binding.key = x.1) :
    a.tryAll trials tree (entries.map FolderTree.withdrawal) = tryDeletions trials entries := by
  induction entries with
  | nil => rfl
  | cons x rest ih =>
      have hkey : (FolderTree.withdrawal x).key = x.1 :=
        (Change.removal_about (hkeyed x List.mem_cons_self)).key
      have hrest := ih fun y hy => hkeyed y (List.mem_cons_of_mem _ hy)
      have hhead : (a.tryChange trials tree (FolderTree.withdrawal x)).mapFault
            (.escalationOf .delete (FolderTree.withdrawal x).key x.2.template.name) =
          (tryDelete trials x.1).mapFault (.escalationOf .delete x.1 x.2.template.name) := by
        show (tryDelete trials (FolderTree.withdrawal x).key).mapFault _ = _
        rw [hkey]
      rw [List.map_cons, tryAll, tryDeletions, hrest]
      exact congrArg (· >>= fun _ => tryDeletions trials rest) hhead

/-- The check of a creation is that of an update from an empty version. -/
theorem checkWrite_of_empty (a : Authority σ) (r : Requester) {e : FolderTree}
    (hspec : e.spec = {}) (t : FolderTree) : a.checkWrite r (some e) t = a.checkWrite r none t := by
  rw [checkWrite, checkWrite, FolderTree.changesFrom_of_empty hspec]

/-- The check of a deletion by somebody who is not trusted is that of an update to an
empty version. -/
theorem checkWrite_to_empty (a : Authority σ) {r : Requester}
    (htrust : a.trusts r.username = false) {e : FolderTree} (hspec : e.spec = {})
    (t : FolderTree) : a.checkWrite r (some t) e = a.checkDelete r t := by
  rw [checkWrite, checkDelete, htrust, if_neg Bool.false_ne_true,
    FolderTree.changesFrom_to_empty hspec]
  cases hset : t.unownedDesired with
  | error c => rfl
  | ok set =>
      have hkeyed : ∀ x ∈ set.entries, x.2.binding.key = x.1 := fun x hx =>
        FolderTree.desired_keyed hset x.1 x.2 (OrderedMap.mem_entries_iff.1 hx)
      have hempty : (set.entries.map FolderTree.withdrawal).isEmpty = set.isEmpty := by
        rw [List.isEmpty_map, OrderedMap.isEmpty]
      show (if (set.entries.map FolderTree.withdrawal).isEmpty then pure ()
          else a.actAs r >>= fun trials =>
            a.tryAll trials e.name (set.entries.map FolderTree.withdrawal)) =
        if set.isEmpty then pure ()
          else a.actAs r >>= fun trials => tryDeletions trials set.entries
      simp only [hempty, tryAll_removals a _ e.name hkeyed]

/-- **Creating is updating from nothing, deleting is updating to nothing.**  Whoever
asks, and however clients are made, answer and tell the time, an empty version of
the tree can stand for none: for the old one of a creation, and, unless the
requester is trusted, for the new one of a deletion.  The outcome is the same, the
fault included, and so are the calls and their order. -/
theorem empty_version_for_none (a : Authority σ) (r : Requester) {e : FolderTree}
    (hspec : e.spec = {}) (t : FolderTree) (x : σ) :
    (a.checkWrite r none t x = a.checkWrite r (some e) t x ∧
      (a.recorded.checkWrite r none t (.fresh x)).2.calls =
        (a.recorded.checkWrite r (some e) t (.fresh x)).2.calls) ∧
    (a.trusts r.username = false →
      a.checkDelete r t x = a.checkWrite r (some t) e x ∧
      (a.recorded.checkDelete r t (.fresh x)).2.calls =
        (a.recorded.checkWrite r (some t) e (.fresh x)).2.calls) := by
  refine ⟨⟨?_, ?_⟩, fun htrust => ⟨?_, ?_⟩⟩
  · rw [checkWrite_of_empty a r hspec]
  · rw [checkWrite_of_empty a.recorded r hspec]
  · rw [checkWrite_to_empty a htrust hspec]
  · rw [checkWrite_to_empty a.recorded htrust hspec]

/-- The platform, asking for nothing. -/
def vacated : FolderTree := { FolderTree.platform with spec := {} }

/-- A requester without much say. -/
def dev : Requester := ⟨"dev", none, ["staff"]⟩

/-- A server that keeps one namespace from being tampered with. -/
def guarded : Scripted Unit where
  world := ()
  rules :=
    [{ verb := "delete", ns := some "org-ns"
       fault := .refused ⟨"Failure", "hands off", "Forbidden", 403⟩ }]

/-- The authority that asks this server. -/
def gatekeeper : Authority (Scripted Unit) := Scripted.authority defaultTrusted none

theorem empty_version_for_none_platform :
    vacated.spec = {} ∧ gatekeeper.trusts dev.username = false ∧
      gatekeeper.checkWrite dev none FolderTree.platform guarded =
        gatekeeper.checkWrite dev (some vacated) FolderTree.platform guarded ∧
      (gatekeeper.checkWrite dev (some FolderTree.platform) vacated guarded).1 =
        .error (.escalation "DELETE" "org-ns" "foldertree-platform-admin" "admin" "hands off") ∧
      (gatekeeper.recorded.checkWrite dev (some FolderTree.platform) vacated
        (.fresh guarded)).2.calls.map (·.call.target) =
          [⟨"", "dev"⟩, ⟨"api-ns", "foldertree-platform-admin"⟩,
            ⟨"org-ns", "foldertree-platform-admin"⟩] := by
  obtain ⟨hcreate, hdelete⟩ :=
    empty_version_for_none gatekeeper dev (e := vacated) rfl FolderTree.platform guarded
  obtain ⟨houtcome, hcalls⟩ := hdelete (by decide)
  rw [← houtcome, ← hcalls]
  exact ⟨rfl, by decide, hcreate.1, rfl, rfl⟩

end Authority

end FolderGrants
