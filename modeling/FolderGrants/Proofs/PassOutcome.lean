import FolderGrants.Proofs.Convergence

/-!
# What an undisturbed pass leaves

Where no call is made to fail, what a pass leaves at a key depends on what stood
there and on nothing else.  A binding of others stays.  One of the tree's own is
brought to what is required, or goes if nothing is.  Only one thing can stop such
a pass: a required key that is *taken* by a binding of others, in a namespace that
exists.  The keys before it have been dealt with then, and no other key has.

* `DesiredSet.settle` — what a pass makes of what stands at a key;
* `Cluster.taken` — when a key stops a pass;
* `FolderTree.pass_through` — no required key is taken;
* `FolderTree.pass_stopped` — the first key that is taken.
-/

namespace FolderGrants

/-- Whether a binding stands there and does not carry the label of the tree. -/
def foreign (tree : String) (o : Option Binding) : Bool := o.any fun b => b.tree? != some tree

/-- What a pass makes of one of the tree's own bindings, or of nothing, where the
grant is required; `found` says whether the namespace exists. -/
def Grant.settle (g : Grant) (found : Bool) : Option Binding → Option Binding
  | none => if found then some g.binding else none
  | some b =>
    if b.roleRef ≠ g.binding.roleRef then if found then some g.binding else none
    else if b.needsRefresh g.binding then some (b.refreshed g.binding)
    else some b

/-- What a pass makes of what stands at `k`; `found` says whether the namespace
exists. -/
def DesiredSet.settle (desired : DesiredSet) (tree : String) (found : Bool) (k : BindingKey)
    (o : Option Binding) : Option Binding :=
  if foreign tree o then o else (desired.get? k).bind fun g => g.settle found o

namespace Cluster

/-- Whether a key is taken by a binding of others, in a namespace that exists. -/
def taken (K : Cluster) (tree : String) (k : BindingKey) : Bool :=
  foreign tree (K.bindings.get? k) && K.hasNamespace k.ns

end Cluster

@[simp] theorem foreign_none (tree : String) : foreign tree none = false := rfl

/-- What stands is of the tree exactly if it carries the label of the tree. -/
@[simp] theorem foreign_some_eq_false_iff {tree : String} {b : Binding} :
    foreign tree (some b) = false ↔ b.tree? = some tree := by
  simp [foreign]

/-- Where something of others stands, it carries another label or none. -/
theorem exists_of_foreign {tree : String} {o : Option Binding} (h : foreign tree o = true) :
    ∃ b, o = some b ∧ b.tree? ≠ some tree := by
  simpa [foreign, Option.any_eq_true] using h

/-- What serves already is left as it is. -/
theorem Grant.settle_of_serves {g : Grant} {b : Binding} (found : Bool)
    (h : b.Serves g.binding) : g.settle found (some b) = some b := by
  simp [Grant.settle, h.roleRef, Binding.needsRefresh_eq_false_iff.2 h]

namespace DesiredSet

variable {desired : DesiredSet} {tree : String} {found : Bool} {k : BindingKey} {g : Grant}
  {o : Option Binding}

/-- What others hold is left as it is. -/
theorem settle_of_foreign (h : foreign tree o = true) : desired.settle tree found k o = o := by
  rw [settle, if_pos h]

/-- Elsewhere a wanted key gets what the grant makes of what stands there. -/
theorem settle_of_required (hg : desired.get? k = some g) (h : foreign tree o = false) :
    desired.settle tree found k o = g.settle found o := by
  simp [settle, h, hg]

/-- A key that is not wanted is cleared. -/
theorem settle_of_not_required (hnone : desired.get? k = none) (h : foreign tree o = false) :
    desired.settle tree found k o = none := by
  simp [settle, h, hnone]

/-- Either no required key is taken, or there is a first one that is. -/
theorem free_or_first_taken (desired : DesiredSet) (tree : String) (K : Cluster) :
    (∀ e ∈ desired.entries, K.taken tree e.1 = false) ∨
      ∃ before k g after, desired.entries = before ++ (k, g) :: after ∧
        (∀ e ∈ before, K.taken tree e.1 = false) ∧ K.taken tree k = true := by
  cases hfind : desired.entries.find? fun e => K.taken tree e.1 with
  | none =>
      refine .inl fun e he => ?_
      simpa using List.find?_eq_none.1 hfind e he
  | some e =>
      obtain ⟨htaken, before, after, hentries, hfree⟩ := List.find?_eq_some_iff_append.1 hfind
      refine .inr ⟨before, e.1, e.2, after, hentries, fun e' he' => ?_, htaken⟩
      simpa using hfree e' he'

end DesiredSet

/-- What a pass sees at a key is what stands there, if it carries the label. -/
theorem Baseline.get?_ofListed {K : Cluster} (hK : K.Keyed) (tree : String) (k : BindingKey) :
    (Baseline.ofBindings (K.bindingsOf tree)).get? k =
      ((K.bindings.get? k).filter fun b => b.tree? == some tree).map fun b =>
        ⟨b, b.template?.getD ""⟩ := by
  apply Option.ext
  intro held
  rw [Baseline.get?_ofListed_iff hK, Option.map_eq_some_iff]
  simp only [Option.filter_eq_some_iff, beq_iff_eq]
  constructor
  · intro h
    obtain ⟨hb, htree, htemplate⟩ := h
    exact ⟨held.binding, ⟨hb, htree⟩, htemplate ▸ rfl⟩
  · intro h
    obtain ⟨b, ⟨hb, htree⟩, rfl⟩ := h
    exact ⟨hb, htree, rfl⟩

/-- What a pass removes at the end are the tree's own bindings at keys that are not
required. -/
theorem Baseline.mem_orphans_iff {K : Cluster} (hK : K.Keyed) {tree : String}
    {desired : DesiredSet} {e : BindingKey × Held} :
    e ∈ ((Baseline.ofBindings (K.bindingsOf tree)).filter
        fun k _ => !desired.contains k).entries ↔
      (K.bindings.get? e.1 = some e.2.binding ∧ e.2.binding.tree? = some tree ∧
        e.2.template = e.2.binding.template?.getD "") ∧ desired.get? e.1 = none := by
  rw [OrderedMap.mem_entries_iff, OrderedMap.get?_filter, Option.filter_eq_some_iff,
    Bool.not_eq_true', OrderedMap.contains_eq_false_iff, Baseline.get?_ofListed_iff hK]

/-- What others hold is not listed for the tree. -/
theorem Baseline.get?_ofListed_of_foreign {K : Cluster} (hK : K.Keyed) {tree : String}
    {k : BindingKey} (h : foreign tree (K.bindings.get? k) = true) :
    (Baseline.ofBindings (K.bindingsOf tree)).get? k = none := by
  obtain ⟨b, hb, htree⟩ := exists_of_foreign h
  simp [Baseline.get?_ofListed hK, hb, htree]

namespace Cluster

/-- `K'` holds `o` at `k`, and is otherwise like `K`. -/
structure SetTo (K : Cluster) (k : BindingKey) (o : Option Binding) (K' : Cluster) : Prop where
  here : K'.bindings.get? k = o
  elsewhere : ∀ k', k' ≠ k → K'.bindings.get? k' = K.bindings.get? k'
  namespaces : K'.namespaces = K.namespaces

variable {K K₁ K₂ : Cluster} {k : BindingKey} {o o' : Option Binding}

theorem setTo_self (h : K.bindings.get? k = o) : K.SetTo k o K := ⟨h, fun _ _ => rfl, rfl⟩

/-- A binding that has been stored is held at its key. -/
theorem setTo_putBinding (K : Cluster) {b : Binding} (h : b.key = k) :
    K.SetTo k (some b) (K.putBinding b) := by
  subst h
  exact ⟨get?_putBinding_self K b, fun _ => get?_putBinding_of_ne K, rfl⟩

/-- After a removal nothing is held at the key. -/
theorem setTo_removeBinding (K : Cluster) (k : BindingKey) :
    K.SetTo k none (K.removeBinding k) :=
  ⟨get?_removeBinding_self K k, fun _ => get?_removeBinding_of_ne K, rfl⟩

/-- What is set last at a key stands. -/
theorem SetTo.trans (h : K.SetTo k o K₁) (h' : K₁.SetTo k o' K₂) : K.SetTo k o' K₂ :=
  ⟨h'.here, fun k' hne => (h'.elsewhere k' hne).trans (h.elsewhere k' hne),
    h'.namespaces.trans h.namespaces⟩

/-- Bindings stay under their own keys if what is set has the key at which it is set. -/
theorem Keyed.setTo (h : K.Keyed) (hset : K.SetTo k o K₁)
    (ho : ∀ b, o = some b → b.key = k) : K₁.Keyed := by
  intro k' b hb
  by_cases hk : k' = k
  · subst hk
    exact ho b (hset.here.symm.trans hb)
  · rw [hset.elsewhere k' hk] at hb
    exact h k' b hb

theorem hasNamespace_of_eq (h : K₁.namespaces = K.namespaces) (ns : String) :
    K₁.hasNamespace ns = K.hasNamespace ns := by
  rw [hasNamespace, hasNamespace, h]

end Cluster

namespace Change

variable {σ : Type} {api : Api σ} {s s' : σ} {K : Cluster} {k : BindingKey} {template : String}
  {b : Binding}

/-- The change is made, and nothing goes wrong. -/
def Succeeds (api : Api σ) (c : Change) (s s' : σ) : Prop := ∃ o, c.apply api s = (.ok o, s')

/-- After changes that succeed the others are made. -/
theorem applyAll_append {changes : List Change} (h : Chain (Succeeds api) changes s s')
    (rest : List Change) (summary : Summary) :
    ∃ summary', applyAll api (changes ++ rest) summary s = applyAll api rest summary' s' := by
  induction h generalizing summary with
  | nil => exact ⟨summary, rfl⟩
  | cons head _ ih =>
      obtain ⟨o, hhead⟩ := head
      obtain ⟨summary', hrest⟩ := ih (summary.count o)
      refine ⟨summary', ?_⟩
      rw [List.cons_append, applyAll, Action.bind_run, hhead]
      exact hrest

/-- Without its namespace a creation is skipped, and nothing happens. -/
theorem creation_skipped (b : Binding) (hns : K.hasNamespace k.ns = false) :
    (creation k template b).Succeeds Cluster.api K K := by
  refine ⟨.skipped, ?_⟩
  simp only [apply, creation, Cluster.api, Action.bind_run, hns]
  rfl

/-- A creation succeeds where its namespace exists and nothing stands at the key. -/
theorem creation_succeeds (hns : K.hasNamespace k.ns = true)
    (habsent : K.bindings.get? b.key = none) :
    (creation k template b).Succeeds Cluster.api K (K.putBinding b) := by
  have hcreate : Cluster.create BindingKey.text b K = (.ok (), K.putBinding b) :=
    Cluster.create_eq_ok_iff.2 ⟨habsent, rfl⟩
  refine ⟨.created, ?_⟩
  simp only [apply, creation, Cluster.api, Action.bind_run, hns, if_true, hcreate]
  rfl

/-- Where nothing stands a creation leaves its binding, if the namespace exists. -/
theorem exists_creation (hkey : b.key = k) (habsent : K.bindings.get? k = none) :
    ∃ K', (creation k template b).Succeeds Cluster.api K K' ∧
      K.SetTo k (if K.hasNamespace k.ns then some b else none) K' := by
  cases hns : K.hasNamespace k.ns with
  | false => exact ⟨K, creation_skipped b hns, Cluster.setTo_self habsent⟩
  | true =>
      have habsent' : K.bindings.get? b.key = none := hkey ▸ habsent
      exact ⟨_, creation_succeeds hns habsent', Cluster.setTo_putBinding K hkey⟩

/-- Nothing is created where something stands. -/
theorem creation_refused (hns : K.hasNamespace k.ns = true) {held : Binding}
    (hheld : K.bindings.get? b.key = some held) :
    (creation k template b).apply Cluster.api K =
      (.error (.refused (.alreadyExists b.key.text)), K) := by
  have hcreate : Cluster.create BindingKey.text b K =
      (.error (.refused (.alreadyExists b.key.text)), K) := by
    rw [Cluster.create, if_pos (OrderedMap.contains_iff.2 ⟨held, hheld⟩)]
  simp only [apply, creation, Cluster.api, Action.bind_run, hns, if_true, hcreate]

/-- A renewal succeeds where something stands at the key. -/
theorem renewal_succeeds {existing held : Binding}
    (hheld : K.bindings.get? existing.key = some held) :
    (renewal k template existing b).Succeeds Cluster.api K
      (K.putBinding (existing.refreshed b)) := by
  have hreplace : Cluster.replace BindingKey.text (existing.refreshed b) K =
      (.ok (), K.putBinding (existing.refreshed b)) :=
    Cluster.replace_eq_ok_iff.2 ⟨⟨held, hheld⟩, rfl⟩
  refine ⟨.updated, ?_⟩
  simp only [apply, renewal, Cluster.api, Action.bind_run, hreplace]
  rfl

/-- A removal succeeds where the binding stands. -/
theorem removal_succeeds {held : Held} (hkey : held.binding.key = k)
    (hheld : K.bindings.get? k = some held.binding) :
    (removal k held).Succeeds Cluster.api K (K.removeBinding k) := by
  have hdelete : Cluster.delete BindingKey.text (removal k held).key K =
      (.ok (), K.removeBinding k) := by
    rw [(removal_about hkey).key]
    exact Cluster.delete_eq_ok_iff.2 ⟨⟨_, hheld⟩, rfl⟩
  refine ⟨.deleted, ?_⟩
  exact Action.seq_eq_ok_iff.2
    ⟨_, Action.forgiving_eq_ok_iff.2 (.inl hdelete), Action.pure_eq_ok_iff.2 ⟨rfl, rfl⟩⟩

end Change

section Parts

variable {K K₁ : Cluster} {tree : String} {k : BindingKey} {g : Grant}

/-- What a required key calls for settles one of the tree's own bindings. -/
theorem exists_chain_of_held (held : Held) (hg : g.binding.key = k)
    (hkey : held.binding.key = k) (hstands : K₁.bindings.get? k = some held.binding) :
    ∃ K₂, Chain (Change.Succeeds Cluster.api) (changesAt k g (some held)) K₁ K₂ ∧
      K₁.SetTo k (g.settle (K₁.hasNamespace k.ns) (some held.binding)) K₂ := by
  by_cases hrole : held.binding.roleRef ≠ g.binding.roleRef
  · -- The binding is removed first, and then created as if it had never stood there.
    have hremove : (Change.removal k held).Succeeds Cluster.api K₁ (K₁.removeBinding k) :=
      Change.removal_succeeds hkey hstands
    have hset := Cluster.setTo_removeBinding K₁ k
    obtain ⟨K₂, hcreate, hset'⟩ :=
      Change.exists_creation hg hset.here
    rw [Cluster.hasNamespace_of_eq hset.namespaces] at hset'
    rw [changesAt, if_pos hrole, Grant.settle, if_pos hrole]
    exact ⟨K₂, .cons hremove (.cons hcreate (.nil _)), hset.trans hset'⟩
  · rw [changesAt, if_neg hrole, Grant.settle, if_neg hrole]
    by_cases hrefresh : held.binding.needsRefresh g.binding = true
    · have hstands' : K₁.bindings.get? held.binding.key = some held.binding := hkey ▸ hstands
      rw [if_pos hrefresh, if_pos hrefresh]
      exact ⟨_, .cons (Change.renewal_succeeds hstands') (.nil _),
        Cluster.setTo_putBinding K₁ hkey⟩
    · rw [if_neg hrefresh, if_neg hrefresh]
      exact ⟨K₁, .nil _, Cluster.setTo_self hstands⟩

/-- Where a required key is not taken, what it calls for succeeds and settles it. -/
theorem exists_chain_changesAt (hK : K.Keyed) (hg : g.binding.key = k)
    (hfree : K.taken tree k = false) (hget : K₁.bindings.get? k = K.bindings.get? k)
    (hns : K₁.namespaces = K.namespaces) :
    ∃ K₂, Chain (Change.Succeeds Cluster.api)
        (changesAt k g ((Baseline.ofBindings (K.bindingsOf tree)).get? k)) K₁ K₂ ∧
      K₁.SetTo k (if foreign tree (K.bindings.get? k) then K.bindings.get? k
        else g.settle (K.hasNamespace k.ns) (K.bindings.get? k)) K₂ := by
  have hfound := Cluster.hasNamespace_of_eq hns k.ns
  cases hstood : K.bindings.get? k with
  | none =>
      have hlisted : (Baseline.ofBindings (K.bindingsOf tree)).get? k = none := by
        simp [Baseline.get?_ofListed hK, hstood]
      obtain ⟨K₂, hcreate, hset⟩ := Change.exists_creation hg (hget.trans hstood)
      rw [hfound] at hset
      rw [hlisted]
      exact ⟨K₂, .cons hcreate (.nil _), hset⟩
  | some b =>
      have hstands := hget.trans hstood
      by_cases htree : b.tree? = some tree
      · have hlisted : (Baseline.ofBindings (K.bindingsOf tree)).get? k =
            some ⟨b, b.template?.getD ""⟩ :=
          (Baseline.get?_ofListed_iff hK).2 ⟨hstood, htree, rfl⟩
        obtain ⟨K₂, hchain, hset⟩ :=
          exists_chain_of_held ⟨b, b.template?.getD ""⟩ hg (hK k b hstood) hstands
        rw [hfound] at hset
        rw [hlisted, foreign_some_eq_false_iff.2 htree]
        exact ⟨K₂, hchain, hset⟩
      · -- The pass does not see the binding, and is kept from it by the missing namespace.
        have hforeign : foreign tree (some b) = true := by simp [foreign, htree]
        have hmissing : K.hasNamespace k.ns = false := by
          simpa [Cluster.taken, hstood, hforeign] using hfree
        have hskip : (Change.creation k g.template.name g.binding).Succeeds Cluster.api K₁ K₁ :=
          Change.creation_skipped g.binding (hfound.trans hmissing)
        rw [Baseline.get?_ofListed_of_foreign hK (hstood ▸ hforeign), hforeign, if_pos rfl]
        exact ⟨K₁, .cons hskip (.nil _), Cluster.setTo_self hstands⟩

end Parts

/-- A list of changes that falls into parts, each of which succeeds wherever its
own key is as at the start, succeeds as a whole and sets every key. -/
theorem exists_chain_of_parts {ι : Type} {K : Cluster} (key : ι → BindingKey)
    (part : ι → List Change) (value : ι → Option Binding) {l : List ι}
    (hnodup : (l.map key).Nodup)
    (hpart : ∀ i ∈ l, ∀ K₁ : Cluster, K₁.bindings.get? (key i) = K.bindings.get? (key i) →
      K₁.namespaces = K.namespaces →
      ∃ K₂, Chain (Change.Succeeds Cluster.api) (part i) K₁ K₂ ∧ K₁.SetTo (key i) (value i) K₂)
    (K₁ : Cluster) (hget : ∀ i ∈ l, K₁.bindings.get? (key i) = K.bindings.get? (key i))
    (hns : K₁.namespaces = K.namespaces) :
    ∃ K₂, Chain (Change.Succeeds Cluster.api) (l.flatMap part) K₁ K₂ ∧
      (∀ i ∈ l, K₂.bindings.get? (key i) = value i) ∧
      (∀ k, (∀ i ∈ l, key i ≠ k) → K₂.bindings.get? k = K₁.bindings.get? k) ∧
      K₂.namespaces = K.namespaces := by
  -- By induction on the parts: the first one leaves the keys of the others as at the start.
  induction l generalizing K₁ with
  | nil => exact ⟨K₁, .nil _, by simp, fun _ _ => rfl, hns⟩
  | cons i rest ih =>
      obtain ⟨hfresh, hnodup⟩ := List.nodup_cons.1 hnodup
      have hne : ∀ j ∈ rest, key j ≠ key i := fun j hj heq =>
        hfresh (heq ▸ List.mem_map_of_mem hj)
      obtain ⟨mid, hhead, hset⟩ := hpart i List.mem_cons_self K₁ (hget i List.mem_cons_self) hns
      have hmid : ∀ j ∈ rest, mid.bindings.get? (key j) = K.bindings.get? (key j) := by
        intro j hj
        rw [hset.elsewhere _ (hne j hj), hget j (List.mem_cons_of_mem _ hj)]
      obtain ⟨K₂, htail, hvalue, helse, hns₂⟩ :=
        ih hnodup (fun j hj => hpart j (List.mem_cons_of_mem _ hj)) mid hmid
          (hset.namespaces.trans hns)
      refine ⟨K₂, Chain.append_iff.2 ⟨mid, hhead, htail⟩, ?_, ?_, hns₂⟩
      · intro j hj
        rcases List.mem_cons.1 hj with rfl | hj
        · rw [helse _ hne, hset.here]
        · exact hvalue j hj
      · intro k hk
        rw [helse k fun j hj => hk j (List.mem_cons_of_mem _ hj),
          hset.elsewhere k (hk i List.mem_cons_self).symm]

namespace FolderTree

variable {t : FolderTree} {desired : DesiredSet} {K : Cluster}

/-- With a desired set, to synchronise is to apply all changes to what is listed. -/
theorem syncBindings_run (hdesired : t.ownedDesired = .ok desired) (K : Cluster) :
    t.syncBindings Cluster.api K =
      Change.applyAll Cluster.api (desired.changesFrom (.ofBindings (K.bindingsOf t.name))) {}
        K := by
  rw [syncBindings, hdesired, Action.bind_run]
  exact Action.bind_run _ _ _

/-- The required keys of a list that are not taken are settled, and nothing else
is touched. -/
theorem exists_chain_of_free (hK : K.Keyed) (hdesired : t.ownedDesired = .ok desired)
    {l : List (BindingKey × Grant)} (hl : l.Sublist desired.entries)
    (hfree : ∀ e ∈ l, K.taken t.name e.1 = false) :
    ∃ K₂, Chain (Change.Succeeds Cluster.api)
        (l.flatMap fun e =>
          changesAt e.1 e.2 ((Baseline.ofBindings (K.bindingsOf t.name)).get? e.1)) K K₂ ∧
      (∀ e ∈ l, K₂.bindings.get? e.1 = desired.settle t.name (K.hasNamespace e.1.ns) e.1
        (K.bindings.get? e.1)) ∧
      (∀ k, (∀ e ∈ l, e.1 ≠ k) → K₂.bindings.get? k = K.bindings.get? k) ∧
      K₂.namespaces = K.namespaces := by
  have hnodup : (l.map (·.1)).Nodup := (hl.map _).nodup desired.keys_nodup
  refine exists_chain_of_parts _ _ _ hnodup (fun e he K₁ hget hns => ?_) K (fun _ _ => rfl) rfl
  have hg : desired.get? e.1 = some e.2 := OrderedMap.mem_entries_iff.1 (hl.subset he)
  have hchain := exists_chain_changesAt hK (desired_keyed hdesired _ _ hg) (hfree e he) hget hns
  simpa only [DesiredSet.settle, hg, Option.bind_some] using hchain

/-- The removals at the end settle every key that is not required, and touch no
other. -/
theorem exists_chain_of_orphans (hK : K.Keyed) {K₁ : Cluster}
    (hkept : ∀ k, desired.get? k = none → K₁.bindings.get? k = K.bindings.get? k) :
    ∃ K₂, Chain (Change.Succeeds Cluster.api)
        (((Baseline.ofBindings (K.bindingsOf t.name)).filter
          fun k _ => !desired.contains k).entries.map fun e => .removal e.1 e.2) K₁ K₂ ∧
      (∀ k found, desired.get? k = none →
        K₂.bindings.get? k = desired.settle t.name found k (K.bindings.get? k)) ∧
      (∀ k g, desired.get? k = some g → K₂.bindings.get? k = K₁.bindings.get? k) ∧
      K₂.namespaces = K₁.namespaces := by
  let orphans := (Baseline.ofBindings (K.bindingsOf t.name)).filter fun k _ => !desired.contains k
  have hpart : ∀ e ∈ orphans.entries, ∀ K' : Cluster,
      K'.bindings.get? e.1 = K₁.bindings.get? e.1 → K'.namespaces = K₁.namespaces →
      ∃ K₂, Chain (Change.Succeeds Cluster.api) [.removal e.1 e.2] K' K₂ ∧
        K'.SetTo e.1 none K₂ := by
    intro e he K' hget _
    obtain ⟨⟨hstood, -⟩, hnone⟩ := (Baseline.mem_orphans_iff hK).1 he
    have hstands := (hget.trans (hkept e.1 hnone)).trans hstood
    exact ⟨_, .cons (Change.removal_succeeds (hK _ _ hstood) hstands) (.nil _),
      Cluster.setTo_removeBinding K' e.1⟩
  obtain ⟨K₂, hchain, hgone, helse, hns⟩ :=
    exists_chain_of_parts (l := orphans.entries) _ _ _ orphans.keys_nodup hpart K₁
      (fun _ _ => rfl) rfl
  have hchain' : Chain (Change.Succeeds Cluster.api)
      (orphans.entries.map fun e => .removal e.1 e.2) K₁ K₂ := by
    rw [← List.flatMap_singleton' (List.map _ _), List.flatMap_map]
    exact hchain
  refine ⟨K₂, hchain', fun k found hnone => ?_, fun k g hg => ?_, hns⟩
  · by_cases horphan : ∃ e ∈ orphans.entries, e.1 = k
    · obtain ⟨e, he, rfl⟩ := horphan
      obtain ⟨⟨hstood, htree, -⟩, -⟩ := (Baseline.mem_orphans_iff hK).1 he
      rw [hgone e he, hstood,
        DesiredSet.settle_of_not_required hnone (foreign_some_eq_false_iff.2 htree)]
    · have hne : ∀ e ∈ orphans.entries, e.1 ≠ k := fun e he heq => horphan ⟨e, he, heq⟩
      rw [helse k hne, hkept k hnone]
      cases hstood : K.bindings.get? k with
      | none => exact (DesiredSet.settle_of_not_required hnone (foreign_none _)).symm
      | some b =>
          have hother : b.tree? ≠ some t.name := fun htree =>
            horphan ⟨(k, ⟨b, b.template?.getD ""⟩),
              (Baseline.mem_orphans_iff hK).2 ⟨⟨hstood, htree, rfl⟩, hnone⟩, rfl⟩
          exact (DesiredSet.settle_of_foreign (by simp [foreign, hother])).symm
  · refine helse k fun e he heq => ?_
    have hnone := ((Baseline.mem_orphans_iff hK).1 he).2
    rw [heq, hg] at hnone
    cases hnone

/-- **A pass that meets no taken key gets through**, and settles every key. -/
theorem pass_through (hK : K.Keyed) (hdesired : t.ownedDesired = .ok desired)
    (hfree : ∀ e ∈ desired.entries, K.taken t.name e.1 = false) :
    ∃ summary K', t.syncBindings Cluster.api K = (.ok summary, K') ∧
      K'.namespaces = K.namespaces ∧
      ∀ k, K'.bindings.get? k =
        desired.settle t.name (K.hasNamespace k.ns) k (K.bindings.get? k) := by
  obtain ⟨K₁, hrequired, hsettled, helse, hns⟩ :=
    exists_chain_of_free hK hdesired (List.Sublist.refl _) hfree
  have hkept : ∀ k, desired.get? k = none → K₁.bindings.get? k = K.bindings.get? k := by
    intro k hnone
    refine helse k fun e he heq => ?_
    have hg := OrderedMap.mem_entries_iff.1 he
    rw [heq, hnone] at hg
    cases hg
  obtain ⟨K₂, hremovals, hrest, hsame, hns'⟩ := exists_chain_of_orphans (t := t) hK hkept
  have hchain : Chain (Change.Succeeds Cluster.api)
      (desired.changesFrom (.ofBindings (K.bindingsOf t.name))) K K₂ :=
    Chain.append_iff.2 ⟨K₁, hrequired, hremovals⟩
  obtain ⟨summary, hrun⟩ := Change.applyAll_append hchain [] {}
  rw [List.append_nil] at hrun
  refine ⟨summary, K₂, (syncBindings_run hdesired K).trans hrun, hns'.trans hns, fun k => ?_⟩
  cases hk : desired.get? k with
  | some g =>
      rw [hsame k g hk]
      exact hsettled (k, g) (OrderedMap.mem_entries_iff.2 hk)
  | none => exact hrest k _ hk

/-- A required key where a binding of others stands calls for a creation, after
what the keys before it call for. -/
theorem changesFrom_of_foreign (hK : K.Keyed) {tree : String}
    {before after : List (BindingKey × Grant)} {k₀ : BindingKey} {g₀ : Grant}
    (hentries : desired.entries = before ++ (k₀, g₀) :: after)
    (hforeign : foreign tree (K.bindings.get? k₀) = true) :
    ∃ rest, desired.changesFrom (.ofBindings (K.bindingsOf tree)) =
      (before.flatMap fun e =>
        changesAt e.1 e.2 ((Baseline.ofBindings (K.bindingsOf tree)).get? e.1)) ++
        .creation k₀ g₀.template.name g₀.binding :: rest := by
  rw [DesiredSet.changesFrom, hentries, List.flatMap_append, List.flatMap_cons,
    Baseline.get?_ofListed_of_foreign hK hforeign, changesAt, List.append_assoc]
  exact ⟨_, rfl⟩

/-- **A pass is stopped by the first required key that is taken.**  The keys before
it are settled, and no other key is touched. -/
theorem pass_stopped (hK : K.Keyed) (hdesired : t.ownedDesired = .ok desired)
    {before after : List (BindingKey × Grant)} {k₀ : BindingKey} {g₀ : Grant}
    (hentries : desired.entries = before ++ (k₀, g₀) :: after)
    (hfree : ∀ e ∈ before, K.taken t.name e.1 = false) (htaken : K.taken t.name k₀ = true) :
    ∃ K', t.syncBindings Cluster.api K = (.error (.refused (.alreadyExists k₀.text)), K') ∧
      K'.namespaces = K.namespaces ∧
      (∀ e ∈ before, K'.bindings.get? e.1 =
        desired.settle t.name (K.hasNamespace e.1.ns) e.1 (K.bindings.get? e.1)) ∧
      ∀ k, (∀ e ∈ before, e.1 ≠ k) → K'.bindings.get? k = K.bindings.get? k := by
  have hsub : before.Sublist desired.entries := hentries ▸ List.sublist_append_left _ _
  obtain ⟨K₁, hchain, hsettled, helse, hns⟩ := exists_chain_of_free hK hdesired hsub hfree
  obtain ⟨hforeign, hexists⟩ := Bool.and_eq_true_iff.1 htaken
  have hne : ∀ e ∈ before, e.1 ≠ k₀ := fun e he =>
    OrderedMap.key_ne_of_entries hentries e (List.mem_append_left _ he)
  have hg := OrderedMap.get?_of_entries hentries
  have hkey : g₀.binding.key = k₀ := desired_keyed hdesired _ _ hg
  obtain ⟨b, hb, -⟩ := exists_of_foreign hforeign
  have hrefused : (Change.creation k₀ g₀.template.name g₀.binding).apply Cluster.api K₁ =
      (.error (.refused (.alreadyExists k₀.text)), K₁) := by
    have hb₁ : K₁.bindings.get? g₀.binding.key = some b := by rw [hkey, helse k₀ hne, hb]
    rw [← hkey]
    refine Change.creation_refused ?_ hb₁
    rw [hkey, Cluster.hasNamespace_of_eq hns, hexists]
  obtain ⟨rest, hsplit⟩ := changesFrom_of_foreign hK hentries hforeign
  obtain ⟨summary, hrun⟩ := Change.applyAll_append hchain (_ :: rest) {}
  refine ⟨K₁, ?_, hns, hsettled, helse⟩
  rw [syncBindings_run hdesired, hsplit, hrun, Change.applyAll, Action.bind_run, hrefused]

end FolderTree

end FolderGrants
