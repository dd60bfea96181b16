import FolderGrants.Proofs.Reordering
import FolderGrants.Proofs.SubjectOrder
import FolderGrants.Proofs.TrialTrace

/-!
# Writes that change no grant

A write that calls for no change is let through without a trial, and without a client.
So it matters exactly when that is: when both versions have desired sets with the same
keys, and the bindings at each key give the same role to as many subjects and the same
ones.  The labels of the bindings need not be compared.  Within the bindings of one tree
a key spells out the name of the template, and the name of the template all the labels.

* `DesiredSet.SameGrants` — when two desired sets give the same access;
* `FolderTree.template_name_eq` — a key determines the name of the template;
* `FolderTree.changesFrom_eq_nil_iff` — nothing changes exactly between such sets;
* `Authority.writeCalls_eq_nil_iff` — nothing is called exactly if nothing changes;
* `FolderTree.unchecked_iff_sameGrants` — which writes pass without a check.
-/

namespace FolderGrants

/-- Two desired sets have the same keys, and at each key the same role for as many
subjects and the same ones. -/
structure DesiredSet.SameGrants (before after : DesiredSet) : Prop where
  keys : ∀ k, k ∈ before.keys ↔ k ∈ after.keys
  grants : ∀ k g g', before.get? k = some g → after.get? k = some g' →
    g.binding.roleRef = g'.binding.roleRef ∧
      g.binding.subjectList.length = g'.binding.subjectList.length ∧
      Subject.SameSet g.binding.subjectList g'.binding.subjectList

/-- Desired sets that differ in the order of subjects give the same access. -/
theorem DesiredSet.sameGrants_of_shuffles {before after : DesiredSet}
    (h : ∀ k, Option.Rel Grant.Shuffles (before.get? k) (after.get? k)) :
    before.SameGrants after := by
  refine ⟨fun k => ?_, fun k g g' hg hg' => ?_⟩
  · rw [OrderedMap.mem_keys_iff, OrderedMap.mem_keys_iff]
    exact exists_iff_of_rel (h k)
  · have hk := h k
    rw [hg, hg'] at hk
    cases hk with
    | some hshuffles =>
        exact ⟨hshuffles.roleRef, hshuffles.subjects.length_eq,
          fun i => (hshuffles.subjects.map Subject.identity).mem_iff⟩

namespace FolderTree

variable {old new : FolderTree} {before after : DesiredSet} {k : BindingKey} {g g' : Grant}

/-- Of the tree that bindings are built for only the name counts, where nothing owns them. -/
theorem unownedDesired_of_name {t t' : FolderTree} (h : t.name = t'.name) :
    t.unownedDesired = t.desired (.unowned t') := by
  rw [unownedDesired, Builder.unowned, Builder.unowned, h]

/-- In trees of one name a key stands for one template name. -/
theorem template_name_eq (hname : old.name = new.name) (hbefore : old.unownedDesired = .ok before)
    (hafter : new.unownedDesired = .ok after) (hg : before.get? k = some g)
    (hg' : after.get? k = some g') : g.template.name = g'.template.name := by
  have hkey : g.binding.key = g'.binding.key :=
    (desired_keyed hbefore k g hg).trans (desired_keyed hafter k g' hg').symm
  have hnames : Binding.nameFor old.name g.template.name =
      Binding.nameFor new.name g'.template.name := by
    rw [← name_of_grant hbefore hg, ← name_of_grant hafter hg']
    exact congrArg BindingKey.name hkey
  rw [hname, Binding.nameFor, Binding.nameFor, String.append_right_inj] at hnames
  exact hnames

/-- So the labels at a key agree. -/
theorem labels_eq_of_key (hname : old.name = new.name) (hbefore : old.unownedDesired = .ok before)
    (hafter : new.unownedDesired = .ok after) (hg : before.get? k = some g)
    (hg' : after.get? k = some g') : g.binding.labels = g'.binding.labels := by
  rw [desired_labels hbefore hg, desired_labels hafter hg',
    template_name_eq hname hbefore hafter hg hg']
  exact congrArg (Binding.trackingLabels · _) hname

/-- One binding serves as the other if it gives the same role to as many subjects and the
same ones. -/
theorem serves_of_same (hname : old.name = new.name) (hbefore : old.unownedDesired = .ok before)
    (hafter : new.unownedDesired = .ok after) (hg : before.get? k = some g)
    (hg' : after.get? k = some g') (h : before.SameGrants after) :
    g.binding.Serves g'.binding := by
  obtain ⟨hrole, hlength, hsubjects⟩ := h.grants k g g' hg hg'
  have hlabels := labels_eq_of_key hname hbefore hafter hg hg'
  exact ⟨hrole, hlength, hsubjects, fun l v hl => hlabels ▸ hl⟩

/-- Whatever the two desired sets are, if nothing is due between them they give the same
access. -/
theorem sameGrants_of_nothing_due (hidle : ∀ c : Change, ¬c.Due after before.baseline) :
    before.SameGrants after := by
  have hrole : ∀ {k g g'}, before.get? k = some g → after.get? k = some g' →
      g.binding.roleRef = g'.binding.roleRef := by
    intro k g g' hg hg'
    by_contra hother
    refine hidle _ (.creation hg' fun held hk => ?_)
    obtain rfl := Option.some.inj ((DesiredSet.get?_baseline_of_grant hg).symm.trans hk)
    exact hother
  refine ⟨fun k => ?_, fun k g g' hg hg' => ?_⟩
  · rw [OrderedMap.mem_keys_iff, OrderedMap.mem_keys_iff]
    constructor
    · intro h
      obtain ⟨g, hg⟩ := h
      by_contra hnone
      exact hidle _ (.removal (DesiredSet.get?_baseline_of_grant hg)
        fun g' hg' => absurd ⟨g', hg'⟩ hnone)
    · intro h
      obtain ⟨g', hg'⟩ := h
      by_contra hnone
      refine hidle _ (.creation hg' fun held hk => ?_)
      obtain ⟨g, hg, -⟩ := DesiredSet.get?_baseline_eq_some_iff.1 hk
      exact absurd ⟨g, hg⟩ hnone
  · have hserves : g.binding.Serves g'.binding := by
      refine Binding.needsRefresh_eq_false_iff.1 (Bool.eq_false_iff.2 fun hrefresh => ?_)
      exact hidle _
        (.renewal hg' (DesiredSet.get?_baseline_of_grant hg) (hrole hg hg') hrefresh)
    exact ⟨hserves.roleRef, hserves.length, hserves.subjects⟩

/-- If the desired sets of two versions of one name give the same access, nothing is due
between them: their labels agree as well. -/
theorem nothing_due_of_sameGrants (hname : old.name = new.name)
    (hbefore : old.unownedDesired = .ok before) (hafter : new.unownedDesired = .ok after)
    (h : before.SameGrants after) (c : Change) : ¬c.Due after before.baseline := by
  intro hdue
  cases hdue with
  | creation hg' hrole =>
      obtain ⟨g, hg⟩ := OrderedMap.mem_keys_iff.1
        ((h.keys _).2 (OrderedMap.mem_keys_iff.2 ⟨_, hg'⟩))
      exact hrole _ (DesiredSet.get?_baseline_of_grant hg) (h.grants _ _ _ hg hg').1
  | renewal hg' hk _ hrefresh =>
      obtain ⟨g, hg, rfl⟩ := DesiredSet.get?_baseline_eq_some_iff.1 hk
      have hserves := serves_of_same hname hbefore hafter hg hg' h
      rw [Binding.needsRefresh_eq_false_iff.2 hserves] at hrefresh
      cases hrefresh
  | removal hk hrole =>
      obtain ⟨g, hg, rfl⟩ := DesiredSet.get?_baseline_eq_some_iff.1 hk
      obtain ⟨g', hg'⟩ := OrderedMap.mem_keys_iff.1
        ((h.keys _).1 (OrderedMap.mem_keys_iff.2 ⟨_, hg⟩))
      exact hrole g' hg' (h.grants _ _ _ hg hg').1

/-- **Nothing changes exactly between desired sets that give the same access.** -/
theorem changesFrom_eq_nil_iff (hname : old.name = new.name)
    (hbefore : old.unownedDesired = .ok before) (hafter : new.unownedDesired = .ok after) :
    after.changesFrom before.baseline = [] ↔ before.SameGrants after := by
  rw [List.eq_nil_iff_forall_not_mem]
  simp only [DesiredSet.mem_changesFrom_iff_due]
  exact ⟨sameGrants_of_nothing_due, nothing_due_of_sameGrants hname hbefore hafter⟩

/-- Nothing changes between two versions exactly if both have desired sets, and these
give the same access. -/
theorem changesFrom_eq_ok_nil_iff (hname : old.name = new.name) :
    changesFrom (some old) new = .ok [] ↔
      ∃ before after, old.unownedDesired = .ok before ∧ new.unownedDesired = .ok after ∧
        before.SameGrants after := by
  rw [changesFrom_some_eq_ok_iff]
  constructor
  · intro h
    obtain ⟨before, after, hbefore, hafter, hnil⟩ := h
    exact ⟨before, after, hbefore, hafter,
      (changesFrom_eq_nil_iff hname hbefore hafter).1 hnil.symm⟩
  · intro h
    obtain ⟨before, after, hbefore, hafter, hsame⟩ := h
    exact ⟨before, after, hbefore, hafter,
      ((changesFrom_eq_nil_iff hname hbefore hafter).2 hsame).symm⟩

/-- Nor does it if subjects are reordered, or nothing is. -/
theorem changesFrom_of_shuffles (hname : old.name = new.name) (h : old.spec.Shuffles new.spec)
    (hbefore : old.unownedDesired = .ok before) : changesFrom (some old) new = .ok [] := by
  obtain ⟨after, hafter, hshuffles⟩ := exists_desired_of_shuffles h hbefore
  have hunowned : new.unownedDesired = .ok after :=
    (unownedDesired_of_name hname.symm).trans hafter
  exact (changesFrom_eq_ok_nil_iff hname).2
    ⟨before, after, hbefore, hunowned, DesiredSet.sameGrants_of_shuffles hshuffles⟩

end FolderTree

/-- A review of a write calls nothing and lets it through exactly if nothing changes. -/
theorem Authority.writeCalls_eq_nil_iff {ω : Type} (a : Authority ω) (r : Requester)
    (old : Option FolderTree) (new : FolderTree) (x : ω) :
    FolderTree.changesFrom old new = .ok [] ↔
      (a.checkWrite r old new x).1 = .ok () ∧ a.writeCalls r old new x = [] := by
  constructor
  · exact writeCalls_of_nil
  · intro h
    obtain ⟨hok, hnone⟩ := h
    cases hchanges : FolderTree.changesFrom old new with
    | error c =>
        rw [(writeCalls_of_conflict hchanges).1] at hok
        cases hok
    | ok changes =>
        by_cases hne : changes = []
        · rw [hne]
        · cases hact : (a.actAs r x).1 with
          | error f =>
              rw [(writeCalls_of_client_fault hchanges hne hact).2] at hnone
              cases hnone
          | ok trials =>
              obtain ⟨calls, -, hcalls⟩ := replays_of_client hchanges hne
                (fun c hc => FolderTree.complete_of_changesFrom hchanges hc) hact
              rw [hcalls] at hnone
              cases hnone

namespace FolderTree

/-- **A write passes without a check exactly if it changes no grant.**  Between two
versions of one name nothing changes if and only if both have desired sets with the same
keys, where each key has the same role for as many subjects and the same ones; absent
namespaces and groups count as empty.  A review then lets the write through without a
call, and without a client, whoever asks, and it never does so otherwise.  A version
with a desired set can so be written again as it is, and with its subjects reordered. -/
theorem unchecked_iff_sameGrants {old new : FolderTree} (hname : old.name = new.name) :
    (changesFrom (some old) new = .ok [] ↔
      ∃ before after, old.unownedDesired = .ok before ∧ new.unownedDesired = .ok after ∧
        before.SameGrants after) ∧
    (∀ (ω : Type) (a : Authority ω) (r : Requester) (x : ω),
      changesFrom (some old) new = .ok [] ↔
        (a.checkWrite r (some old) new x).1 = .ok () ∧ a.writeCalls r (some old) new x = []) ∧
    ∀ before, old.unownedDesired = .ok before →
      changesFrom (some old) old = .ok [] ∧
      (old.spec.Shuffles new.spec → changesFrom (some old) new = .ok []) := by
  refine ⟨changesFrom_eq_ok_nil_iff hname,
    fun ω a r x => a.writeCalls_eq_nil_iff r (some old) new x, fun before hbefore => ⟨?_, ?_⟩⟩
  · exact changesFrom_of_shuffles rfl (.refl old.spec) hbefore
  · exact fun h => changesFrom_of_shuffles hname h hbefore

/-- The clinic, with the subjects of one template the other way round. -/
def clinicShuffled : FolderTree where
  metadata := { name := some "clinic" }
  spec :=
    ⟨some ⟨"wards", [⟨"north", []⟩, ⟨"south", []⟩]⟩,
      [wards [careBy [.group "nurses", .user "ada"], auditView], northWard,
       southWard ["shared", "south-ns"]]⟩

/-- The clinic, with one more nurse. -/
def clinicStaffed : FolderTree where
  metadata := { name := some "clinic" }
  spec :=
    ⟨some ⟨"wards", [⟨"north", []⟩, ⟨"south", []⟩]⟩,
      [wards [careBy [.user "ada", .group "nurses", .user "eve"], auditView], northWard,
       southWard ["shared", "south-ns"]]⟩

theorem unchecked_iff_sameGrants_clinic :
    (clinic.name = clinicShuffled.name ∧ (∃ set, clinic.unownedDesired = .ok set) ∧
      clinic.spec.Shuffles clinicShuffled.spec ∧
      changesFrom (some clinic) clinicShuffled = .ok [] ∧
      (Authority.gatekeeper.checkWrite Authority.dev (some clinic) clinicShuffled
        Authority.guarded).1 = .ok () ∧
      Authority.gatekeeper.writeCalls Authority.dev (some clinic) clinicShuffled
        Authority.guarded = []) ∧
    clinic.name = clinicStaffed.name ∧
      (∃ changes, changesFrom (some clinic) clinicStaffed = .ok changes ∧
        changes.map (·.kind) = [.update, .update]) ∧
      (¬∃ before after, clinic.unownedDesired = .ok before ∧
        clinicStaffed.unownedDesired = .ok after ∧ before.SameGrants after) ∧
      (Authority.gatekeeper.writeCalls Authority.dev (some clinic) clinicStaffed
        Authority.guarded).map (fun r => (r.call.verb, r.call.target.text)) =
          [("client_for", "/dev"), ("replace", "shared/foldertree-clinic-care"),
            ("replace", "south-ns/foldertree-clinic-care")] := by
  have hname : clinic.name = clinicShuffled.name := rfl
  have hwards : Folder.Shuffles (wards [careBy [.user "ada", .group "nurses"], auditView])
      (wards [careBy [.group "nurses", .user "ada"], auditView]) :=
    ⟨rfl, .cons ⟨rfl, .swap _ _ _, rfl, rfl⟩ (.cons (.refl auditView) .nil), rfl⟩
  have hshuffles : clinic.spec.Shuffles clinicShuffled.spec :=
    ⟨rfl, .cons hwards (.cons (.refl northWard) (.cons (.refl (southWard _)) .nil))⟩
  obtain ⟨-, hcalls, hsame⟩ := unchecked_iff_sameGrants hname
  have hnil := (hsame _ rfl).2 hshuffles
  have hstaffed : clinic.name = clinicStaffed.name := rfl
  obtain ⟨hiff, -, -⟩ := unchecked_iff_sameGrants hstaffed
  refine ⟨⟨hname, ⟨_, rfl⟩, hshuffles, hnil,
    (hcalls _ Authority.gatekeeper Authority.dev Authority.guarded).1 hnil⟩,
    hstaffed, ⟨_, rfl, by decide⟩, fun h => ?_, rfl⟩
  cases hiff.2 h

end FolderTree

end FolderGrants
