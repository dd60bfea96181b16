import FolderGrants.Proofs.Courses
import FolderGrants.Proofs.DriftRepair
import FolderGrants.Proofs.NameSeparation

/-!
# Passes side by side

Two passes may run at the same time, with their calls in any order.  A pass acts on
a list that it has made at some point, and the other pass goes on changing the
cluster.  That does no harm if the two trees have nothing to do with each other's
keys: each call then sees, of the cluster, what it would see if the other pass did
not exist, and leaves there what it would leave.  So every order of the calls gives
what each pass gives alone, put together, and one pass after the other is such an
order.

* `Interleaved` — two courses over one state, in some order of their calls;
* `Cluster.answer_local` — a call sees and changes its own part alone;
* `Interleaved.alone` — what an interleaving gives, by what each course gives alone;
* `FolderTree.interleaved_eq_sequential` — an interleaving of two passes is one pass
  after the other.
-/

namespace FolderGrants

/-- Two courses over one state, in some order of their calls: what each of them
ends with, and the state at the end. -/
inductive Interleaved {σ α β : Type} (api : Api σ) :
    Course α → Course β → σ → Except Fault α → Except Fault β → σ → Prop
  | ended (x : Except Fault α) (y : Except Fault β) (s : σ) :
      Interleaved api (.ended x) (.ended y) s x y s
  | left {γ : Type} {r : Query γ} {next : Except Fault γ → Course α} {q : Course β} {s s' : σ}
      {x : Except Fault α} {y : Except Fault β}
      (rest : Interleaved api (next (api.answer r s).1) q (api.answer r s).2 x y s') :
      Interleaved api (.call r next) q s x y s'
  | right {γ : Type} {r : Query γ} {p : Course α} {next : Except Fault γ → Course β} {s s' : σ}
      {x : Except Fault α} {y : Except Fault β}
      (rest : Interleaved api p (next (api.answer r s).1) (api.answer r s).2 x y s') :
      Interleaved api p (.call r next) s x y s'

namespace Interleaved

variable {σ α β : Type} {api : Api σ} {p : Course α} {q : Course β} {s s' : σ}
  {x : Except Fault α} {y : Except Fault β}

theorem symm (h : Interleaved api p q s x y s') : Interleaved api q p s y x s' := by
  induction h with
  | ended x y s => exact .ended y x s
  | left _ ih => exact .right ih
  | right _ ih => exact .left ih

/-- One course after the other. -/
theorem sequential (api : Api σ) (p : Course α) (q : Course β) (s : σ) :
    Interleaved api p q s (p.run api s).1 (q.run api (p.run api s).2).1
      (q.run api (p.run api s).2).2 := by
  induction p generalizing s with
  | call r next ih => exact .left (ih _ _)
  | ended x =>
      show Interleaved api (.ended x) q s x (q.run api s).1 (q.run api s).2
      induction q generalizing s with
      | call r next ih => exact .right (ih _ _)
      | ended y => exact .ended x y s

end Interleaved

namespace Cluster

/-- Two clusters have the same namespaces, and at keys of `T` the same bindings. -/
structure SameOn (T : BindingKey → Prop) (K K' : Cluster) : Prop where
  namespaces : K.namespaces = K'.namespaces
  bindings : ∀ k, T k → K.bindings.get? k = K'.bindings.get? k

/-- What a call that stays within `T` may have done. -/
inductive Touched (tree : String) (T : BindingKey → Prop) (K : Cluster) : Cluster → Prop
  | same : Touched tree T K K
  | put {b : Binding} (hb : b.tree? = some tree) (hkey : T b.key) :
      Touched tree T K (K.putBinding b)
  | removed {key : BindingKey} (hkey : T key) : Touched tree T K (K.removeBinding key)

variable {K K' K₁ : Cluster} {tree tree' : String} {T U : BindingKey → Prop}

theorem SameOn.refl (T : BindingKey → Prop) (K : Cluster) : K.SameOn T K := ⟨rfl, fun _ _ => rfl⟩

/-- Clusters that show the same at some keys do so after the same has been stored in
both. -/
theorem SameOn.putBinding (h : K.SameOn T K') (b : Binding) :
    (K.putBinding b).SameOn T (K'.putBinding b) := by
  refine ⟨h.namespaces, fun k hk => ?_⟩
  by_cases hkey : k = b.key
  · subst hkey
    rw [get?_putBinding_self, get?_putBinding_self]
  · rw [get?_putBinding_of_ne K hkey, get?_putBinding_of_ne K' hkey, h.bindings k hk]

/-- They do so after the same key has been cleared in both. -/
theorem SameOn.removeBinding (h : K.SameOn T K') (key : BindingKey) :
    (K.removeBinding key).SameOn T (K'.removeBinding key) := by
  refine ⟨h.namespaces, fun k hk => ?_⟩
  by_cases hkey : k = key
  · subst hkey
    rw [get?_removeBinding_self, get?_removeBinding_self]
  · rw [get?_removeBinding_of_ne K hkey, get?_removeBinding_of_ne K' hkey, h.bindings k hk]

/-- At such a key something stands in both or in neither. -/
theorem SameOn.contains (h : K.SameOn T K') {k : BindingKey} (hk : T k) :
    K.bindings.contains k = K'.bindings.contains k := by
  rw [OrderedMap.contains, OrderedMap.contains, h.bindings k hk]

/-- A list shows what stands at the keys of `T`, if all that carries the label does. -/
theorem SameOn.bindingsOf (h : K.SameOn T K') (hK : K.Confines tree T)
    (hK' : K'.Confines tree T) : K.bindingsOf tree = K'.bindingsOf tree := by
  have hlisted : ∀ K : Cluster, K.bindingsOf tree =
      (K.bindings.filter fun _ b => b.tree? == some tree).values := by
    intro K
    simp only [Cluster.bindingsOf, OrderedMap.values, OrderedMap.filter, List.filter_map]
    rfl
  have hnone : ∀ K : Cluster, K.Confines tree T → ∀ k, ¬T k →
      (K.bindings.get? k).filter (fun b => b.tree? == some tree) = none := by
    intro K hK k hk
    rw [Option.filter_eq_none_iff]
    intro b hb htree
    exact hk (hK.own k b hb (by simpa using htree))
  rw [hlisted, hlisted]
  congr 1
  apply OrderedMap.ext_get?
  intro k
  rw [OrderedMap.get?_filter, OrderedMap.get?_filter]
  by_cases hk : T k
  · rw [h.bindings k hk]
  · rw [hnone K hK k hk, hnone K' hK' k hk]

namespace Touched

/-- No namespace is touched. -/
theorem namespaces (h : K.Touched tree T K') : K'.namespaces = K.namespaces := by
  cases h <;> rfl

/-- No tree is touched. -/
theorem trees (h : K.Touched tree T K') : K'.trees = K.trees := by
  cases h <;> rfl

/-- Elsewhere nothing is touched. -/
theorem elsewhere (h : K.Touched tree T K') {k : BindingKey} (hk : ¬T k) :
    K'.bindings.get? k = K.bindings.get? k := by
  cases h with
  | same => rfl
  | put hb hkey =>
      have hne : k ≠ _ := fun heq => hk (heq ▸ hkey)
      exact get?_putBinding_of_ne K hne
  | removed hkey =>
      have hne : k ≠ _ := fun heq => hk (heq ▸ hkey)
      exact get?_removeBinding_of_ne K hne

/-- What carries a label stays where it was confined to, the tree's own and that of
any other. -/
theorem confines (h : K.Touched tree T K') (hK : K.Confines tree' U)
    (hown : tree = tree' → ∀ k, T k → U k) : K'.Confines tree' U := by
  cases h with
  | same => exact hK
  | @put b hb hkey =>
      have hkeyed : (K.putBinding b).Keyed :=
        hK.keyed.setTo (setTo_putBinding K rfl) fun _ hb' => Option.some.inj hb' ▸ rfl
      refine ⟨hkeyed, fun k b' hb' htree => ?_⟩
      by_cases hk : k = b.key
      · subst hk
        rw [get?_putBinding_self] at hb'
        obtain rfl := Option.some.inj hb'
        exact hown (Option.some.inj (hb.symm.trans htree)) _ hkey
      · rw [get?_putBinding_of_ne K hk] at hb'
        exact hK.own k b' hb' htree
  | @removed key hkey =>
      have hkeyed : (K.removeBinding key).Keyed :=
        hK.keyed.setTo (setTo_removeBinding K key) fun _ hnone => by cases hnone
      refine ⟨hkeyed, fun k b' hb' htree => ?_⟩
      by_cases hk : k = key
      · subst hk
        rw [get?_removeBinding_self] at hb'
        cases hb'
      · rw [get?_removeBinding_of_ne K hk] at hb'
        exact hK.own k b' hb' htree

end Touched

variable {γ : Type} {q : Query γ}

/-- A call touches its own part alone. -/
theorem touched_of_answer (hq : q.Within tree T) (K : Cluster) :
    K.Touched tree T (api.answer q K).2 := by
  cases hq with
  | list => exact .same
  | namespaceExists ns => exact .same
  | @create b hb hkey =>
      show K.Touched tree T (create BindingKey.text b K).2
      rw [create]
      split
      · exact .same
      · exact .put hb hkey
  | @replace b hb hkey =>
      show K.Touched tree T (replace BindingKey.text b K).2
      rw [replace]
      split
      · exact .put hb hkey
      · exact .same
  | @delete key hkey =>
      show K.Touched tree T (delete BindingKey.text key K).2
      rw [delete]
      split
      · exact .removed hkey
      · exact .same

/-- **A call sees its own part alone.**  Where that is the same, so is the answer, and
so it is afterwards. -/
theorem answer_local (hq : q.Within tree T) (h : K.SameOn T K') (hK : K.Confines tree T)
    (hK' : K'.Confines tree T) :
    (api.answer q K).1 = (api.answer q K').1 ∧
      (api.answer q K).2.SameOn T (api.answer q K').2 := by
  cases hq with
  | list => exact ⟨congrArg Except.ok (h.bindingsOf hK hK'), h⟩
  | namespaceExists ns => exact ⟨congrArg Except.ok (hasNamespace_of_eq h.namespaces ns), h⟩
  | @create b hb hkey =>
      show (create BindingKey.text b K).1 = (create BindingKey.text b K').1 ∧
        (create BindingKey.text b K).2.SameOn T (create BindingKey.text b K').2
      rw [create, create, h.contains hkey]
      split
      · exact ⟨rfl, h⟩
      · exact ⟨rfl, h.putBinding b⟩
  | @replace b hb hkey =>
      show (replace BindingKey.text b K).1 = (replace BindingKey.text b K').1 ∧
        (replace BindingKey.text b K).2.SameOn T (replace BindingKey.text b K').2
      rw [replace, replace, h.contains hkey]
      split
      · exact ⟨rfl, h.putBinding b⟩
      · exact ⟨rfl, h⟩
  | @delete key hkey =>
      show (delete BindingKey.text key K).1 = (delete BindingKey.text key K').1 ∧
        (delete BindingKey.text key K).2.SameOn T (delete BindingKey.text key K').2
      rw [delete, delete, h.contains hkey]
      split
      · exact ⟨rfl, h.removeBinding key⟩
      · exact ⟨rfl, h⟩

end Cluster

section SideBySide

variable {α β γ : Type} {n m : String} {T U : BindingKey → Prop} {K K' KA KB : Cluster}
  {p : Course α} {q : Course β} {x : Except Fault α} {y : Except Fault β}

/-- Two courses stay within keys of their own, and `KA` and `KB` show to them what
`K` does.  Both courses change `K`, the first one alone changes `KA`, and the second
one alone `KB`. -/
structure SideBySide (n : String) (T : BindingKey → Prop) (p : Course α) (KA : Cluster)
    (m : String) (U : BindingKey → Prop) (q : Course β) (KB : Cluster) (K : Cluster) : Prop where
  left : p.Within n T
  right : q.Within m U
  leftHere : K.Confines n T
  rightHere : K.Confines m U
  leftAlone : KA.Confines n T
  rightAlone : KB.Confines m U
  leftSame : K.SameOn T KA
  rightSame : K.SameOn U KB

theorem SideBySide.symm (h : SideBySide n T p KA m U q KB K) :
    SideBySide m U q KB n T p KA K :=
  ⟨h.right, h.left, h.rightHere, h.leftHere, h.rightAlone, h.leftAlone, h.rightSame, h.leftSame⟩

section Step

variable {r : Query γ} {next : Except Fault γ → Course α}

/-- A call of the first course is answered as if that course were alone. -/
theorem SideBySide.answer_eq (h : SideBySide n T (.call r next) KA m U q KB K) :
    (Cluster.api.answer r K).1 = (Cluster.api.answer r KA).1 := by
  have hleft := h.left
  cases hleft with
  | call hr _ => exact (Cluster.answer_local hr h.leftSame h.leftHere h.leftAlone).1

/-- After a call of the first course the two go on side by side. -/
theorem SideBySide.step (h : SideBySide n T (.call r next) KA m U q KB K) (hne : n ≠ m)
    (hapart : ∀ k, T k → ¬U k) :
    SideBySide n T (next (Cluster.api.answer r K).1) (Cluster.api.answer r KA).2 m U q KB
      (Cluster.api.answer r K).2 := by
  have hleft := h.left
  cases hleft with
  | call hr hnext =>
      have htouched := Cluster.touched_of_answer hr K
      have htouched' := Cluster.touched_of_answer hr KA
      have hkept : (Cluster.api.answer r K).2.SameOn U KB := by
        refine ⟨htouched.namespaces.trans h.rightSame.namespaces, fun k hk => ?_⟩
        rw [htouched.elsewhere fun hk' => hapart k hk' hk, h.rightSame.bindings k hk]
      exact
        { left := hnext K h.leftHere
          right := h.right
          leftHere := htouched.confines h.leftHere fun _ _ hk => hk
          rightHere := htouched.confines h.rightHere fun heq => absurd heq hne
          leftAlone := htouched'.confines h.leftAlone fun _ _ hk => hk
          rightAlone := h.rightAlone
          leftSame := (Cluster.answer_local hr h.leftSame h.leftHere h.leftAlone).2
          rightSame := hkept }

/-- It leaves alone what is neither's. -/
theorem SideBySide.untouched (h : SideBySide n T (.call r next) KA m U q KB K) :
    (∀ k, ¬T k → (Cluster.api.answer r K).2.bindings.get? k = K.bindings.get? k) ∧
      (Cluster.api.answer r K).2.trees = K.trees := by
  have hleft := h.left
  cases hleft with
  | call hr _ =>
      have htouched := Cluster.touched_of_answer hr K
      exact ⟨fun _ hk => htouched.elsewhere hk, htouched.trees⟩

end Step

/-- **An interleaving gives what each course gives alone.**  Both end as they would if
the other did not exist, each leaves at its own keys what it would leave then, and
at other keys nothing is touched. -/
theorem Interleaved.alone (h : Interleaved Cluster.api p q K x y K') (hne : n ≠ m)
    (hapart : ∀ k, T k → ¬U k) (hside : SideBySide n T p KA m U q KB K) :
    x = (p.run Cluster.api KA).1 ∧ y = (q.run Cluster.api KB).1 ∧
      K'.SameOn T (p.run Cluster.api KA).2 ∧ K'.SameOn U (q.run Cluster.api KB).2 ∧
      (∀ k, ¬T k → ¬U k → K'.bindings.get? k = K.bindings.get? k) ∧ K'.trees = K.trees := by
  induction h generalizing KA KB with
  | ended x y K => exact ⟨rfl, rfl, hside.leftSame, hside.rightSame, fun _ _ _ => rfl, rfl⟩
  | @left γ r next q K K' x y rest ih =>
      obtain ⟨hx, hy, hleft, hright, helse, htrees⟩ := ih (hside.step hne hapart)
      obtain ⟨hkept, htrees'⟩ := hside.untouched
      rw [hside.answer_eq] at hx hleft
      refine ⟨hx, hy, hleft, hright, fun k hk hk' => ?_, htrees.trans htrees'⟩
      rw [helse k hk hk', hkept k hk]
  | @right γ r p next K K' x y rest ih =>
      have hside' := hside.symm
      have hapart' : ∀ k, U k → ¬T k := fun k hk hk' => hapart k hk' hk
      obtain ⟨hx, hy, hleft, hright, helse, htrees⟩ := ih (hside'.step hne.symm hapart').symm
      obtain ⟨hkept, htrees'⟩ := hside'.untouched
      rw [hside'.answer_eq] at hy hright
      refine ⟨hx, hy, hleft, hright, fun k hk hk' => ?_, htrees.trans htrees'⟩
      rw [helse k hk hk', hkept k hk']

/-- All interleavings of two such courses come to the same. -/
theorem Interleaved.unique {x' : Except Fault α} {y' : Except Fault β} {K'' : Cluster}
    (h : Interleaved Cluster.api p q K x y K') (h' : Interleaved Cluster.api p q K x' y' K'')
    (hne : n ≠ m) (hapart : ∀ k, T k → ¬U k) (hside : SideBySide n T p K m U q K K) :
    x = x' ∧ y = y' ∧ K' = K'' := by
  obtain ⟨hx, hy, hleft, hright, helse, htrees⟩ := h.alone hne hapart hside
  obtain ⟨hx', hy', hleft', hright', helse', htrees'⟩ := h'.alone hne hapart hside
  refine ⟨hx.trans hx'.symm, hy.trans hy'.symm, ?_⟩
  have hnamespaces : K'.namespaces = K''.namespaces :=
    hleft.namespaces.trans hleft'.namespaces.symm
  have hbindings : K'.bindings = K''.bindings := by
    apply OrderedMap.ext_get?
    intro k
    by_cases hk : T k
    · rw [hleft.bindings k hk, hleft'.bindings k hk]
    · by_cases hk' : U k
      · rw [hright.bindings k hk', hright'.bindings k hk']
      · rw [helse k hk hk', helse' k hk hk']
  have hsame : K'.trees = K''.trees := htrees.trans htrees'.symm
  cases K'
  cases K''
  exact Cluster.mk.injEq _ _ _ _ _ _ ▸ ⟨hnamespaces, hbindings, hsame⟩

end SideBySide

namespace FolderTree

variable {t v : FolderTree} {K K' : Cluster} {x y : Except Fault Summary}

/-- The keys that a tree requires and those at which its label is found. -/
def Minds (t : FolderTree) (K : Cluster) (k : BindingKey) : Prop :=
  t.Requires k ∨ ∃ b, K.bindings.get? k = some b ∧ b.tree? = some t.name

/-- Trees that require no common key, and none where the other one's label is found,
mind no common key. -/
theorem minds_apart (hne : t.name ≠ v.name) (hdisjoint : ∀ k, t.Requires k → ¬v.Requires k)
    (hleft : ∀ k, t.Requires k → K.Clear v.name k) (hright : ∀ k, v.Requires k → K.Clear t.name k) :
    ∀ k, t.Minds K k → ¬v.Minds K k := by
  intro k hk hk'
  rcases hk with hk | ⟨b, hb, htree⟩
  · rcases hk' with hk' | ⟨b', hb', htree'⟩
    · exact hdisjoint k hk hk'
    · exact hleft k hk b' hb' htree'
  · rcases hk' with hk' | ⟨b', hb', htree'⟩
    · exact hright k hk' b hb htree
    · obtain rfl := Option.some.inj (hb.symm.trans hb')
      exact hne (Option.some.inj (htree.symm.trans htree'))

/-- The passes over two trees go side by side, each within the keys that its tree
minds. -/
theorem courses_sideBySide (hK : K.Keyed) :
    SideBySide t.name (t.Minds K) t.course K v.name (v.Minds K) v.course K K := by
  have hconfines : ∀ t : FolderTree, K.Confines t.name (t.Minds K) :=
    fun t => ⟨hK, fun k b hb htree => .inr ⟨b, hb, htree⟩⟩
  exact ⟨course_within fun _ => .inl, course_within fun _ => .inl, hconfines t, hconfines v,
    hconfines t, hconfines v, .refl _ K, .refl _ K⟩

/-- One pass after the other is an interleaving of the two. -/
theorem interleaved_in_turn (t v : FolderTree) (K : Cluster) :
    Interleaved Cluster.api t.course v.course K (t.syncBindings Cluster.api K).1
      (v.syncBindings Cluster.api (t.syncBindings Cluster.api K).2).1
      (v.syncBindings Cluster.api (t.syncBindings Cluster.api K).2).2 := by
  have h := Interleaved.sequential Cluster.api t.course v.course K
  rwa [run_course, run_course] at h

/-- **Passes over trees that have nothing to do with each other's keys do not disturb
each other.**  If no key that one requires is required by the other or holds its
label, then the calls of the two passes may come in any order: both end, with
success or with a fault, and leave the cluster, as if one had run after the other,
whichever is first. -/
theorem interleaved_eq_sequential (hK : K.Keyed) (hne : t.name ≠ v.name)
    (hdisjoint : ∀ k, t.Requires k → ¬v.Requires k)
    (hleft : ∀ k, t.Requires k → K.Clear v.name k)
    (hright : ∀ k, v.Requires k → K.Clear t.name k)
    (h : Interleaved Cluster.api t.course v.course K x y K') :
    (∃ mid, t.syncBindings Cluster.api K = (x, mid) ∧
      v.syncBindings Cluster.api mid = (y, K')) ∧
    ∃ mid, v.syncBindings Cluster.api K = (y, mid) ∧
      t.syncBindings Cluster.api mid = (x, K') := by
  have hapart := minds_apart hne hdisjoint hleft hright
  have hside : SideBySide t.name (t.Minds K) t.course K v.name (v.Minds K) v.course K K :=
    courses_sideBySide hK
  constructor
  · obtain ⟨rfl, rfl, rfl⟩ := h.unique (interleaved_in_turn t v K) hne hapart hside
    exact ⟨_, rfl, rfl⟩
  · obtain ⟨rfl, rfl, rfl⟩ := h.unique (interleaved_in_turn v t K).symm hne hapart hside
    exact ⟨_, rfl, rfl⟩

/-- The drifted cluster with a namespace for the outpost. -/
def sharedCluster : Cluster := driftedCluster.addNamespace "a"

theorem interleaved_eq_sequential_platform :
    ∃ K', Interleaved Cluster.api platform.course outpost.course sharedCluster
        (.ok ⟨2, 1, 2, 1⟩) (.ok ⟨1, 0, 0, 0⟩) K' ∧
      (∃ mid, platform.syncBindings Cluster.api sharedCluster = (.ok ⟨2, 1, 2, 1⟩, mid) ∧
        outpost.syncBindings Cluster.api mid = (.ok ⟨1, 0, 0, 0⟩, K')) ∧
      ∃ mid, outpost.syncBindings Cluster.api sharedCluster = (.ok ⟨1, 0, 0, 0⟩, mid) ∧
        platform.syncBindings Cluster.api mid = (.ok ⟨2, 1, 2, 1⟩, K') := by
  have hkeyed : sharedCluster.Keyed := Cluster.keyed_of_bindings driftedPlatform rfl
  have hne : platform.name ≠ outpost.name := by decide
  have hdisjoint : ∀ k, platform.Requires k → ¬outpost.Requires k :=
    (namesApart_iff hne).2 ⟨by decide, by decide⟩ platform outpost rfl rfl
  have hlabel : ∀ e ∈ sharedCluster.bindings.entries, e.2.tree? = some "platform" := by decide
  have hleft : ∀ k, platform.Requires k → sharedCluster.Clear outpost.name k := by
    intro k _ b hb htree
    have hplatform := hlabel (k, b) (OrderedMap.mem_entries_iff.2 hb)
    rw [hplatform] at htree
    exact hne (Option.some.inj htree)
  have hright : ∀ k, outpost.Requires k → sharedCluster.Clear platform.name k := by
    intro k hk b hb
    obtain ⟨set, hset, hmem⟩ := hk
    cases hset
    obtain rfl := List.mem_singleton.1 hmem
    cases hb
  -- The outpost lists after the platform, and its two other calls come in between.
  have hcrossed : Interleaved Cluster.api platform.course outpost.course sharedCluster
      (.ok ⟨2, 1, 2, 1⟩) (.ok ⟨1, 0, 0, 0⟩) _ :=
    .left (.right (.left (.right (.left (.left (.right
      (.left (.left (.left (.left (.left (.ended _ _ _))))))))))))
  exact ⟨_, hcrossed, interleaved_eq_sequential hkeyed hne hdisjoint hleft hright hcrossed⟩

end FolderTree

end FolderGrants
