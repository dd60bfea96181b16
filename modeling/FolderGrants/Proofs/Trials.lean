import FolderGrants.Proofs.Actions
import FolderGrants.Proofs.ChangeLists
import FolderGrants.Review.Authority

/-!
# When trials are accepted

A requester may make a write if every change that it implies is accepted when
it is tried out in their name, one change after the other.  Two refusals count
as acceptance: a binding that is to be renewed but is not there is tried out
as a creation, and one that is to be deleted but is not there may be deleted.

* `Authority.Accepts` — when the trial of one change is accepted;
* `Authority.AcceptsAll` — when nothing has to be tried out, or all of it is
  accepted;
* `Authority.checkWrite_eq_ok_iff`, `Authority.checkDelete_eq_ok_iff` — what a
  requester may write and delete.
-/

namespace FolderGrants

variable {σ : Type}

namespace Authority

/-- `a.Accepts trials tree c s s'`: tried out in the world `s`, the change `c`
is accepted and leaves the world `s'`. -/
inductive Accepts (a : Authority σ) (trials : Trials σ) (tree : String) :
    Change → σ → σ → Prop
  | create {c : Change} {b : Binding} {s s' : σ}
      (hkind : c.kind = .create) (hdesired : c.desired = some b)
      (hcreate : trials.create (b.forTrial tree c.template (a.clock s).1) (a.clock s).2 =
        (.ok (), s')) : Accepts a trials tree c s s'
  | update {c : Change} {existing desired : Binding} {s s' : σ}
      (hkind : c.kind = .update) (hexisting : c.existing = some existing)
      (hdesired : c.desired = some desired)
      (hreplace : trials.replace (existing.refreshed desired) s = (.ok (), s')) :
      Accepts a trials tree c s s'
  /-- A binding that is not there yet is tried out as a creation. -/
  | updateMissing {c : Change} {existing desired : Binding} {f : Fault} {s mid s' : σ}
      (hkind : c.kind = .update) (hexisting : c.existing = some existing)
      (hdesired : c.desired = some desired)
      (hreplace : trials.replace (existing.refreshed desired) s = (.error f, mid))
      (hmissing : f.isNotFound = true)
      (hcreate : trials.create
        ((existing.refreshed desired).forTrial tree c.template (a.clock mid).1) (a.clock mid).2 =
        (.ok (), s')) : Accepts a trials tree c s s'
  | delete {c : Change} {s s' : σ} (hkind : c.kind = .delete)
      (hdelete : trials.delete ⟨c.ns, c.bindingName⟩ s = (.ok (), s')) :
      Accepts a trials tree c s s'
  /-- A binding that is gone already may be deleted. -/
  | deleteMissing {c : Change} {f : Fault} {s s' : σ} (hkind : c.kind = .delete)
      (hdelete : trials.delete ⟨c.ns, c.bindingName⟩ s = (.error f, s'))
      (hmissing : f.isNotFound = true) : Accepts a trials tree c s s'

/-- The trial of the deletion of `key` is accepted, or finds nothing. -/
def AcceptsDeletion (trials : Trials σ) (key : BindingKey) (s s' : σ) : Prop :=
  trials.delete key s = (.ok (), s') ∨
    ∃ f, trials.delete key s = (.error f, s') ∧ f.isNotFound = true

variable {a : Authority σ} {trials : Trials σ} {tree : String} {s s' : σ}

/-- A creation is accepted if what is sent under the trial name is. -/
theorem tryCreate_eq_ok_iff {template : String} {b : Binding} :
    a.tryCreate trials tree template b s = (.ok (), s') ↔
      trials.create (b.forTrial tree template (a.clock s).1) (a.clock s).2 = (.ok (), s') :=
  Iff.rfl

/-- A deletion is accepted if it succeeds or nothing is found. -/
theorem tryDelete_eq_ok_iff {key : BindingKey} :
    tryDelete trials key s = (.ok (), s') ↔ AcceptsDeletion trials key s s' :=
  Action.forgiving_eq_ok_iff

/-- The trial of a change goes through exactly if it is accepted. -/
theorem tryChange_eq_ok_iff {c : Change} :
    a.tryChange trials tree c s = (.ok (), s') ↔ a.Accepts trials tree c s s' := by
  obtain ⟨kind, ns, template, existing, desired⟩ := c
  constructor
  · intro h
    cases kind with
    | create =>
        cases desired with
        | none => exact absurd h Action.throw_ne_ok
        | some b => exact .create rfl rfl (tryCreate_eq_ok_iff.1 h)
    | update =>
        cases existing with
        | none => exact absurd h Action.throw_ne_ok
        | some b =>
            cases desired with
            | none => exact absurd h Action.throw_ne_ok
            | some b' =>
                rcases Action.orTry_eq_ok_iff.1 h with h | ⟨f, mid, hreplace, hmissing, hcreate⟩
                · exact .update rfl rfl rfl h
                · exact .updateMissing rfl rfl rfl hreplace hmissing
                    (tryCreate_eq_ok_iff.1 hcreate)
    | delete =>
        rcases tryDelete_eq_ok_iff.1 h with h | ⟨f, h, hmissing⟩
        · exact .delete rfl h
        · exact .deleteMissing rfl h hmissing
  · intro h
    cases h with
    | create hkind hdesired hcreate =>
        cases hkind
        cases hdesired
        exact tryCreate_eq_ok_iff.2 hcreate
    | update hkind hexisting hdesired hreplace =>
        cases hkind
        cases hexisting
        cases hdesired
        exact Action.orTry_eq_ok_iff.2 (.inl hreplace)
    | updateMissing hkind hexisting hdesired hreplace hmissing hcreate =>
        cases hkind
        cases hexisting
        cases hdesired
        exact Action.orTry_eq_ok_iff.2
          (.inr ⟨_, _, hreplace, hmissing, tryCreate_eq_ok_iff.2 hcreate⟩)
    | delete hkind hdelete =>
        cases hkind
        exact tryDelete_eq_ok_iff.2 (.inl hdelete)
    | deleteMissing hkind hdelete hmissing =>
        cases hkind
        exact tryDelete_eq_ok_iff.2 (.inr ⟨_, hdelete, hmissing⟩)

/-- Changes are accepted if they are accepted one after the other. -/
theorem tryAll_eq_ok_iff {changes : List Change} :
    a.tryAll trials tree changes s = (.ok (), s') ↔
      Chain (a.Accepts trials tree) changes s s' := by
  induction changes generalizing s with
  | nil => rw [tryAll, Action.pure_eq_ok_iff, Chain.nil_iff, and_iff_right rfl]
  | cons c rest ih =>
      rw [tryAll, Action.seq_eq_ok_iff, Chain.cons_iff]
      simp only [Action.mapFault_eq_ok_iff, tryChange_eq_ok_iff, ih]

/-- Deletions are accepted if they are accepted one after the other. -/
theorem tryDeletions_eq_ok_iff {entries : List (BindingKey × Grant)} :
    tryDeletions trials entries s = (.ok (), s') ↔
      Chain (AcceptsDeletion trials) (entries.map (·.1)) s s' := by
  induction entries generalizing s with
  | nil => rw [tryDeletions, Action.pure_eq_ok_iff, List.map_nil, Chain.nil_iff, and_iff_right rfl]
  | cons e rest ih =>
      rw [tryDeletions, Action.seq_eq_ok_iff, List.map_cons, Chain.cons_iff]
      simp only [Action.mapFault_eq_ok_iff, tryDelete_eq_ok_iff, ih]

/-- There is nothing to try out, or a client acts for the requester and accepts
one trial after the other. -/
inductive AcceptsAll {ι : Type} (a : Authority σ) (r : Requester)
    (R : Trials σ → ι → σ → σ → Prop) : List ι → σ → σ → Prop
  | nothing (s : σ) : AcceptsAll a r R [] s s
  | trials {items : List ι} {trials : Trials σ} {s mid s' : σ} (hitems : items ≠ [])
      (hact : a.actAs r s = (.ok trials, mid)) (haccepts : Chain (R trials) items mid s') :
      AcceptsAll a r R items s s'

/-- A client is only made where there is something to try out. -/
theorem eq_ok_iff_acceptsAll {ι : Type} {r : Requester} {items : List ι} {empty : Bool}
    {run : Trials σ → Action σ Unit} {R : Trials σ → ι → σ → σ → Prop}
    (hempty : empty = true ↔ items = [])
    (hrun : ∀ trials s s', run trials s = (.ok (), s') ↔ Chain (R trials) items s s') :
    (if empty then return () else a.actAs r >>= run : Action σ Unit) s = (.ok (), s') ↔
      a.AcceptsAll r R items s s' := by
  by_cases hnil : items = []
  · rw [if_pos (hempty.2 hnil), Action.pure_eq_ok_iff]
    constructor
    · intro h
      rw [hnil, ← h.2]
      exact .nothing s
    · intro h
      cases h with
      | nothing => exact ⟨rfl, rfl⟩
      | trials hitems => exact absurd hnil hitems
  · rw [if_neg fun h => hnil (hempty.1 h), Action.bind_eq_ok_iff]
    constructor
    · intro h
      obtain ⟨trials, mid, hact, hall⟩ := h
      exact .trials hnil hact ((hrun trials mid s').1 hall)
    · intro h
      cases h with
      | nothing => exact absurd rfl hnil
      | trials _ hact haccepts => exact ⟨_, _, hact, (hrun _ _ s').2 haccepts⟩

/-- A write is let through exactly if both versions have desired sets and the
requester may make the changes between them. -/
theorem checkWrite_eq_ok_iff {r : Requester} {old : Option FolderTree} {new : FolderTree} :
    a.checkWrite r old new s = (.ok (), s') ↔
      ∃ changes, FolderTree.changesFrom old new = .ok changes ∧
        a.AcceptsAll r (fun trials => a.Accepts trials new.name) changes s s' := by
  unfold checkWrite
  simp only [Action.bind_eq_ok_iff, Action.ofExcept_mapError_eq_ok_iff]
  constructor
  · intro h
    obtain ⟨changes, mid, ⟨hchanges, hmid⟩, hall⟩ := h
    rw [← hmid] at hall
    have haccepts := (eq_ok_iff_acceptsAll List.isEmpty_iff fun _ _ _ => tryAll_eq_ok_iff).1 hall
    exact ⟨changes, hchanges, haccepts⟩
  · intro h
    obtain ⟨changes, hchanges, haccepts⟩ := h
    have hall := (eq_ok_iff_acceptsAll List.isEmpty_iff fun _ _ _ => tryAll_eq_ok_iff).2 haccepts
    exact ⟨changes, s, ⟨hchanges, rfl⟩, hall⟩

/-- A requester who is not trusted may delete a tree exactly if it has a desired
set and they may delete all of it. -/
theorem checkDelete_eq_ok_iff {r : Requester} {t : FolderTree}
    (htrust : a.trusts r.username = false) :
    a.checkDelete r t s = (.ok (), s') ↔
      ∃ desired, t.unownedDesired = .ok desired ∧
        a.AcceptsAll r AcceptsDeletion desired.keys s s' := by
  have hempty (desired : DesiredSet) : desired.isEmpty = true ↔ desired.keys = [] := by
    simp [OrderedMap.isEmpty, OrderedMap.keys]
  unfold checkDelete
  rw [htrust, if_neg Bool.false_ne_true]
  simp only [Action.bind_eq_ok_iff, Action.ofExcept_mapError_eq_ok_iff]
  constructor
  · intro h
    obtain ⟨desired, mid, ⟨hdesired, hmid⟩, hall⟩ := h
    rw [← hmid] at hall
    have haccepts :=
      (eq_ok_iff_acceptsAll (hempty desired) fun _ _ _ => tryDeletions_eq_ok_iff).1 hall
    exact ⟨desired, hdesired, haccepts⟩
  · intro h
    obtain ⟨desired, hdesired, haccepts⟩ := h
    have hall :=
      (eq_ok_iff_acceptsAll (hempty desired) fun _ _ _ => tryDeletions_eq_ok_iff).2 haccepts
    exact ⟨desired, s, ⟨hdesired, rfl⟩, hall⟩

end Authority

end FolderGrants
