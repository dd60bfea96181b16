import FolderGrants.Proofs.BindingComparison
import FolderGrants.Proofs.ChangeLists
import FolderGrants.Proofs.Collapse

/-!
# What changes write

A creation writes the desired binding, a renewal the existing one refreshed to
it, a removal nothing.  Seen from the lists of changes, this is sound and
complete: whatever is written serves some required key, and every required key
is served by what is written or by what was there before.

* `DesiredSet.serves_of_written` — whatever is written serves a required key;
* `DesiredSet.exists_written_or_serves` — every required key is served;
* `FolderTree.unowned_sameAccess_owned` — the bindings that a pass makes give
  the access of those that a review looks at.
-/

namespace FolderGrants

namespace Change

/-- The binding that making a change writes, if it writes one. -/
def written? (c : Change) : Option Binding :=
  match c.kind, c.existing, c.desired with
  | .create, _, some desired => some desired
  | .update, some existing, some desired => some (existing.refreshed desired)
  | _, _, _ => none

theorem written?_of_create {c : Change} {b : Binding} (hkind : c.kind = .create)
    (hdesired : c.desired = some b) : c.written? = some b := by
  simp only [written?, hkind, hdesired]

theorem written?_of_update {c : Change} {existing desired : Binding} (hkind : c.kind = .update)
    (hexisting : c.existing = some existing) (hdesired : c.desired = some desired) :
    c.written? = some (existing.refreshed desired) := by
  simp only [written?, hkind, hexisting, hdesired]

theorem written?_of_delete {c : Change} (hkind : c.kind = .delete) : c.written? = none := by
  simp only [written?, hkind]

@[simp] theorem written?_creation (key : BindingKey) (template : String) (desired : Binding) :
    (creation key template desired).written? = some desired := rfl

@[simp] theorem written?_renewal (key : BindingKey) (template : String)
    (existing desired : Binding) :
    (renewal key template existing desired).written? = some (existing.refreshed desired) := rfl

@[simp] theorem written?_removal (key : BindingKey) (h : Held) :
    (removal key h).written? = none := rfl

end Change

/-- Every binding of a baseline is held at its own key. -/
def Baseline.Keyed (baseline : Baseline) : Prop :=
  ∀ k held, baseline.get? k = some held → held.binding.key = k

/-- Every binding of a desired set stands at its own key. -/
def DesiredSet.Keyed (desired : DesiredSet) : Prop :=
  ∀ k g, desired.get? k = some g → g.binding.key = k

/-- Where nothing stands, all of it stands at its key. -/
theorem Baseline.empty_keyed : Baseline.Keyed .empty := by
  intro k held hheld
  rw [OrderedMap.get?_empty] at hheld
  cases hheld

/-- What is held at a key comes from the list, and has that key. -/
theorem Baseline.mem_of_get?_ofBindings {live : List Binding} {k : BindingKey} {held : Held}
    (h : (Baseline.ofBindings live).get? k = some held) :
    held.binding ∈ live ∧ held.binding.key = k := by
  have hmem := OrderedMap.mem_of_get?_ofList h
  obtain ⟨b, hb, heq⟩ := List.mem_map.1 hmem
  obtain ⟨hkey, rfl⟩ := Prod.mk.inj heq
  exact ⟨hb, hkey⟩

/-- Bindings that are listed stand at their keys. -/
theorem Baseline.ofBindings_keyed (live : List Binding) : (Baseline.ofBindings live).Keyed :=
  fun _ _ hheld => (mem_of_get?_ofBindings hheld).2

/-- What is wanted stands at its key when it is taken for what stands. -/
theorem DesiredSet.Keyed.baseline {desired : DesiredSet} (h : desired.Keyed) :
    desired.baseline.Keyed := by
  intro k held hheld
  obtain ⟨g, hg, rfl⟩ := DesiredSet.get?_baseline_eq_some_iff.1 hheld
  exact h k g hg

/-- A desired set lists its bindings under their keys. -/
theorem DesiredSet.Collapses.keyed {b : Builder} {es : List Emission} {set : DesiredSet}
    (h : Collapses b es set) : set.Keyed := by
  intro k g hg
  obtain ⟨e, -, hkey, rfl⟩ := h.exists_emission hg
  exact hkey

/-- So does the desired set of a tree. -/
theorem FolderTree.desired_keyed {t : FolderTree} {b : Builder} {set : DesiredSet}
    (h : t.desired b = .ok set) : set.Keyed :=
  (FolderTree.desired_eq_ok_iff.1 h).keyed

/-- What a required key calls for, by what is held there. -/
inductive CallsFor (k : BindingKey) (g : Grant) : Option Held → List Change → Prop
  | create : CallsFor k g none [.creation k g.template.name g.binding]
  /-- A role cannot be altered in place. -/
  | recreate {held : Held} (hrole : held.binding.roleRef ≠ g.binding.roleRef) :
      CallsFor k g (some held) [.removal k held, .creation k g.template.name g.binding]
  | renew {held : Held} :
      CallsFor k g (some held) [.renewal k g.template.name held.binding g.binding]
  | keep {held : Held} (hserves : held.binding.Serves g.binding) : CallsFor k g (some held) []

/-- The changes at a key are those that it calls for. -/
theorem changesAt_callsFor (k : BindingKey) (g : Grant) (held? : Option Held) :
    CallsFor k g held? (changesAt k g held?) := by
  cases held? with
  | none => exact .create
  | some held =>
      by_cases hrole : held.binding.roleRef ≠ g.binding.roleRef
      · rw [changesAt, if_pos hrole]
        exact .recreate hrole
      · rw [changesAt, if_neg hrole]
        by_cases hrefresh : held.binding.needsRefresh g.binding = true
        · rw [if_pos hrefresh]
          exact .renew
        · rw [if_neg hrefresh]
          exact .keep (Binding.needsRefresh_eq_false_iff.1 (Bool.eq_false_iff.2 hrefresh))

namespace CallsFor

variable {k : BindingKey} {g : Grant} {held? : Option Held} {changes : List Change}

/-- What is written for a required key stands at that key and serves it. -/
theorem written (h : CallsFor k g held? changes)
    (hheld : ∀ held, held? = some held → held.binding.key = k) (hg : g.binding.key = k)
    {c : Change} {b : Binding} (hc : c ∈ changes) (hb : c.written? = some b) :
    b.key = k ∧ b.Serves g.binding := by
  cases h with
  | create =>
      obtain rfl := List.mem_singleton.1 hc
      obtain rfl := Option.some.inj hb
      exact ⟨hg, .refl _⟩
  | recreate =>
      rcases List.mem_cons.1 hc with hremoval | hcreation
      · obtain rfl := hremoval
        cases hb
      · obtain rfl := List.mem_singleton.1 hcreation
        obtain rfl := Option.some.inj hb
        exact ⟨hg, .refl _⟩
  | renew =>
      obtain rfl := List.mem_singleton.1 hc
      obtain rfl := Option.some.inj hb
      exact ⟨hheld _ rfl, Binding.refreshed_serves _ _⟩
  | keep => cases hc

/-- A required key has something written for it, unless what is held serves. -/
theorem exists_written_or_serves (h : CallsFor k g held? changes) :
    (∃ c ∈ changes, ∃ b, c.written? = some b) ∨
      ∃ held, held? = some held ∧ held.binding.Serves g.binding := by
  cases h with
  | create => exact .inl ⟨_, List.mem_cons_self, _, Change.written?_creation _ _ _⟩
  | recreate =>
      refine .inl ⟨.creation k g.template.name g.binding, ?_, _, rfl⟩
      exact List.mem_cons_of_mem _ List.mem_cons_self
  | renew => exact .inl ⟨_, List.mem_cons_self, _, Change.written?_renewal _ _ _ _⟩
  | keep hserves => exact .inr ⟨_, rfl, hserves⟩

end CallsFor

namespace DesiredSet

variable {desired : DesiredSet} {baseline : Baseline}

/-- Whatever the changes write serves a required key. -/
theorem serves_of_written (hdesired : desired.Keyed) (hbaseline : baseline.Keyed) {c : Change}
    {b : Binding} (hc : c ∈ desired.changesFrom baseline) (hb : c.written? = some b) :
    ∃ g, desired.get? b.key = some g ∧ b.Serves g.binding := by
  rcases mem_changesFrom_iff.1 hc with ⟨k, g, hg, hc⟩ | ⟨k, held, -, -, rfl⟩
  · have hcalls := changesAt_callsFor k g (baseline.get? k)
    obtain ⟨rfl, hserves⟩ := hcalls.written (hbaseline k) (hdesired k g hg) hc hb
    exact ⟨g, hg, hserves⟩
  · rw [Change.written?_removal] at hb
    cases hb

/-- A required key is served by what the changes write, or by what was there
before. -/
theorem exists_written_or_serves (hdesired : desired.Keyed) (hbaseline : baseline.Keyed)
    {k : BindingKey} {g : Grant} (hg : desired.get? k = some g) :
    (∃ c ∈ desired.changesFrom baseline, ∃ b,
      c.written? = some b ∧ b.key = k ∧ b.Serves g.binding) ∨
      ∃ held, baseline.get? k = some held ∧ held.binding.Serves g.binding := by
  have hcalls := changesAt_callsFor k g (baseline.get? k)
  rcases hcalls.exists_written_or_serves with ⟨c, hc, b, hb⟩ | hheld
  · have hwritten := hcalls.written (hbaseline k) (hdesired k g hg) hc hb
    exact .inl ⟨c, mem_changesFrom_iff.2 (.inl ⟨k, g, hg, hc⟩), b, hb, hwritten⟩
  · exact .inr hheld

/-- What emissions collapse to under two builders of one tree's bindings differs
in the bindings alone. -/
theorem Collapses.get?_rebuilt {b b' : Builder} {es : List Emission} {set set' : DesiredSet}
    (h : Collapses b es set) (h' : Collapses b' es set') (htree : b.tree = b'.tree)
    (k : BindingKey) :
    set'.get? k = (set.get? k).map fun g => { g with binding := b'.build g.template g.ns } := by
  have hkey : ∀ e : Emission, e.key b = e.key b' := by
    intro e
    rw [Emission.key, Emission.key, htree]
  rw [h.get?_eq, h'.get?_eq, Option.map_map]
  simp only [hkey]
  rfl

end DesiredSet

namespace FolderTree

/-- Two trees are the same in what they ask for. -/
def Restates (t v : FolderTree) : Prop := t.name = v.name ∧ t.spec = v.spec

theorem Restates.refl (t : FolderTree) : t.Restates t := ⟨rfl, rfl⟩

variable {t v : FolderTree} {owned unowned : DesiredSet}

/-- What a review calculates of two trees is the same if one restates the other. -/
theorem Restates.unownedDesired_eq (h : t.Restates v) : t.unownedDesired = v.unownedDesired := by
  obtain ⟨hname, hspec⟩ := h
  rw [unownedDesired, unownedDesired, desired, desired, hspec, Builder.unowned, Builder.unowned,
    hname]

/-- The bindings that a pass makes give the access of those that a review looks
at, also if the tree was restated in between. -/
theorem unowned_sameAccess_owned (h : t.Restates v) (howned : t.ownedDesired = .ok owned)
    (hunowned : v.unownedDesired = .ok unowned) {k : BindingKey} {g : Grant}
    (hg : owned.get? k = some g) :
    ∃ g', unowned.get? k = some g' ∧ g'.binding.SameAccess g.binding := by
  have hset := desired_eq_ok_iff.1 howned
  have hset' := desired_eq_ok_iff.1 (h.unownedDesired_eq.trans hunowned)
  refine ⟨_, (hset.get?_rebuilt hset' rfl k).trans (congrArg _ hg), ?_⟩
  obtain ⟨e, -, -, rfl⟩ := hset.exists_emission hg
  exact ⟨rfl, rfl, .refl _⟩

end FolderTree

end FolderGrants
