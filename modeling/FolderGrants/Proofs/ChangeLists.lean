import FolderGrants.Change.Basic
import FolderGrants.Proofs.MapLookup

/-!
# What stands in a list of changes

A change is listed because of one key: a key that the tree requires calls for
what its binding lacks, a key that it does not require calls for a removal.

* `Change.Due` — when a change is called for;
* `DesiredSet.mem_changesFrom_iff_due` — exactly these changes are listed.
-/

namespace FolderGrants

/-- When a change is called for.  A key is created that is required and not held
with the required role, and renewed that is held with it and lacks something
else; a key is removed that is held and not required with that role. -/
inductive Change.Due (desired : DesiredSet) (baseline : Baseline) : Change → Prop
  | creation {k : BindingKey} {g : Grant} (hg : desired.get? k = some g)
      (hheld : ∀ held, baseline.get? k = some held →
        held.binding.roleRef ≠ g.binding.roleRef) :
      Due desired baseline (.creation k g.template.name g.binding)
  | renewal {k : BindingKey} {g : Grant} {held : Held} (hg : desired.get? k = some g)
      (hheld : baseline.get? k = some held) (hrole : held.binding.roleRef = g.binding.roleRef)
      (hrefresh : held.binding.needsRefresh g.binding = true) :
      Due desired baseline (.renewal k g.template.name held.binding g.binding)
  | removal {k : BindingKey} {held : Held} (hheld : baseline.get? k = some held)
      (hrole : ∀ g, desired.get? k = some g → held.binding.roleRef ≠ g.binding.roleRef) :
      Due desired baseline (.removal k held)

/-- What a required key calls for is due. -/
theorem Change.due_of_mem_changesAt {desired : DesiredSet} {baseline : Baseline} {k : BindingKey}
    {g : Grant} {c : Change} (hg : desired.get? k = some g)
    (hc : c ∈ changesAt k g (baseline.get? k)) : c.Due desired baseline := by
  cases hk : baseline.get? k with
  | none =>
      rw [hk] at hc
      obtain rfl := List.mem_singleton.1 hc
      refine .creation hg fun held hheld => ?_
      rw [hk] at hheld
      cases hheld
  | some held =>
      rw [hk] at hc
      by_cases hrole : held.binding.roleRef = g.binding.roleRef
      · rw [changesAt, if_neg (not_not_intro hrole)] at hc
        by_cases hrefresh : held.binding.needsRefresh g.binding = true
        · rw [if_pos hrefresh] at hc
          obtain rfl := List.mem_singleton.1 hc
          exact .renewal hg hk hrole hrefresh
        · rw [if_neg hrefresh] at hc
          cases hc
      · rw [changesAt, if_pos hrole] at hc
        rcases List.mem_cons.1 hc with rfl | hc
        · refine .removal hk fun g' hg' => ?_
          obtain rfl := Option.some.inj (hg.symm.trans hg')
          exact hrole
        · obtain rfl := List.mem_singleton.1 hc
          refine .creation hg fun held' hheld' => ?_
          obtain rfl := Option.some.inj (hk.symm.trans hheld')
          exact hrole

namespace DesiredSet

/-- Where a listed change comes from. -/
theorem mem_changesFrom_iff {desired : DesiredSet} {baseline : Baseline} {c : Change} :
    c ∈ desired.changesFrom baseline ↔
      (∃ k g, desired.get? k = some g ∧ c ∈ changesAt k g (baseline.get? k)) ∨
      ∃ k held, baseline.get? k = some held ∧ desired.get? k = none ∧ c = .removal k held := by
  simp only [changesFrom, List.mem_append, List.mem_flatMap, List.mem_map, Prod.exists,
    OrderedMap.mem_entries_iff, OrderedMap.get?_filter, Option.filter_eq_some_iff,
    Bool.not_eq_true', OrderedMap.contains_eq_false_iff, and_assoc]
  refine or_congr Iff.rfl ?_
  refine exists_congr fun k => exists_congr fun held => ?_
  refine and_congr_right fun _ => and_congr_right fun _ => ?_
  exact eq_comm

/-- A list of changes holds exactly what is due. -/
theorem mem_changesFrom_iff_due {desired : DesiredSet} {baseline : Baseline} {c : Change} :
    c ∈ desired.changesFrom baseline ↔ c.Due desired baseline := by
  rw [mem_changesFrom_iff]
  constructor
  · intro h
    rcases h with ⟨k, g, hg, hc⟩ | ⟨k, held, hheld, hnone, rfl⟩
    · exact Change.due_of_mem_changesAt hg hc
    · refine .removal hheld fun g hg => ?_
      rw [hnone] at hg
      cases hg
  · intro h
    cases h with
    | @creation k g hg hheld =>
        refine .inl ⟨k, g, hg, ?_⟩
        cases hk : baseline.get? k with
        | none => exact List.mem_singleton_self _
        | some held =>
            rw [changesAt, if_pos (hheld held hk)]
            exact List.mem_cons_of_mem _ List.mem_cons_self
    | @renewal k g held hg hheld hrole hrefresh =>
        refine .inl ⟨k, g, hg, ?_⟩
        rw [hheld, changesAt, if_neg (not_not_intro hrole), if_pos hrefresh]
        exact List.mem_singleton_self _
    | @removal k held hheld hrole =>
        cases hk : desired.get? k with
        | none => exact .inr ⟨k, held, hheld, hk, rfl⟩
        | some g =>
            refine .inl ⟨k, g, hk, ?_⟩
            rw [hheld, changesAt, if_pos (hrole g hk)]
            exact List.mem_cons_self

/-- The baseline that a desired set is for its next version. -/
theorem get?_baseline (d : DesiredSet) (k : BindingKey) :
    d.baseline.get? k = (d.get? k).map fun g => ⟨g.binding, g.template.name⟩ :=
  OrderedMap.get?_mapValues d _ k

/-- What it holds at a key stands for the grant there. -/
theorem get?_baseline_eq_some_iff {d : DesiredSet} {k : BindingKey} {held : Held} :
    d.baseline.get? k = some held ↔
      ∃ g, d.get? k = some g ∧ ⟨g.binding, g.template.name⟩ = held := by
  rw [get?_baseline, Option.map_eq_some_iff]

/-- It holds a binding for each grant. -/
theorem get?_baseline_of_grant {d : DesiredSet} {k : BindingKey} {g : Grant}
    (hg : d.get? k = some g) : d.baseline.get? k = some ⟨g.binding, g.template.name⟩ :=
  get?_baseline_eq_some_iff.2 ⟨g, hg, rfl⟩

end DesiredSet

namespace FolderTree

variable {old new : FolderTree} {changes : List Change}

/-- A tree that is created is compared with nothing. -/
theorem changesFrom_none_eq_ok_iff :
    changesFrom none new = .ok changes ↔
      ∃ after, new.unownedDesired = .ok after ∧ changes = after.changesFrom .empty := by
  cases hnew : new.unownedDesired with
  | error c => simp [changesFrom, hnew, bind, Except.bind]
  | ok after =>
      have hrun : changesFrom none new = .ok (after.changesFrom .empty) := by
        simp only [changesFrom, hnew]
        rfl
      rw [hrun]
      simp [eq_comm]

/-- A tree that is changed is compared with its old version. -/
theorem changesFrom_some_eq_ok_iff :
    changesFrom (some old) new = .ok changes ↔
      ∃ before after, old.unownedDesired = .ok before ∧ new.unownedDesired = .ok after ∧
        changes = after.changesFrom before.baseline := by
  cases hold : old.unownedDesired with
  | error c => simp [changesFrom, hold, bind, Except.bind]
  | ok before =>
      cases hnew : new.unownedDesired with
      | error c => simp [changesFrom, hold, hnew, bind, Except.bind]
      | ok after =>
          have hrun : changesFrom (some old) new = .ok (after.changesFrom before.baseline) := by
            simp only [changesFrom, hold, hnew]
            rfl
          rw [hrun]
          simp [eq_comm]

end FolderTree

end FolderGrants
