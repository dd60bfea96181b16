import FolderGrants.Cluster.Script
import FolderGrants.Proofs.Actions
import FolderGrants.Proofs.Writes

/-!
# Servers whose failures are safe

A server may fail at any call, as long as a call that fails changes nothing.
Behind it stands a cluster, and a call that succeeds does to the cluster what
it does where nothing fails.  What a successful call has done can then be
told from the cluster alone.

* `Api.FailsSafely` — a failing call changes nothing;
* `Api.DeletesHonestly` — only what is absent is said to be absent;
* `Api.Truthful` — what is said to be done has been done, which is all that matters
  where a pass succeeds;
* `Cluster.flaky` — a cluster behind any pattern of failures;
* `Cluster.create_conditional` and its kin — where a call on a binding has its effect.
-/

namespace FolderGrants

variable {σ : Type}

/-- Either `a` fails and the view of the state stays as it is, or it does what
`ideal` does to the view. -/
def Action.Follows {ρ α : Type} (view : σ → ρ) (a : Action σ α) (ideal : Action ρ α) : Prop :=
  ∀ s x s', a s = (x, s') → match x with
    | .ok y => ideal (view s) = (.ok y, view s')
    | .error _ => view s' = view s

/-- Where `a` succeeds, so does `ideal`, and the view changes alike. -/
theorem Action.Follows.ok {ρ α : Type} {view : σ → ρ} {a : Action σ α} {ideal : Action ρ α}
    {s s' : σ} {y : α} (h : a.Follows view ideal) (ha : a s = (.ok y, s')) :
    ideal (view s) = (.ok y, view s') :=
  h s (.ok y) s' ha

/-- Where `a` fails, the view stays as it is. -/
theorem Action.Follows.error {ρ α : Type} {view : σ → ρ} {a : Action σ α} {ideal : Action ρ α}
    {s s' : σ} {f : Fault} (h : a.Follows view ideal) (ha : a s = (.error f, s')) :
    view s' = view s :=
  h s (.error f) s' ha

/-- Where `a` succeeds, it gives what `ideal` gives and does what it does to the view. -/
def Action.Truthful {ρ α : Type} (view : σ → ρ) (a : Action σ α) (ideal : Action ρ α) : Prop :=
  ∀ s y s', a s = (.ok y, s') → ideal (view s) = (.ok y, view s')

namespace Api

/-- The calls on bindings are those of a cluster, or fail and change nothing. -/
structure FailsSafely (api : Api σ) (cluster : σ → Cluster) : Prop where
  list : ∀ tree, (api.list tree).Follows cluster (Cluster.api.list tree)
  namespaceExists : ∀ ns,
    (api.namespaceExists ns).Follows cluster (Cluster.api.namespaceExists ns)
  create : ∀ b, (api.create b).Follows cluster (Cluster.api.create b)
  replace : ∀ b, (api.replace b).Follows cluster (Cluster.api.replace b)
  delete : ∀ key, (api.delete key).Follows cluster (Cluster.api.delete key)

/-- A deletion is only said to find nothing if there is nothing. -/
def DeletesHonestly (api : Api σ) (cluster : σ → Cluster) : Prop :=
  ∀ key s f s', api.delete key s = (.error f, s') → f.isNotFound = true →
    (cluster s).bindings.get? key = none

/-- The calls on bindings that succeed are those of a cluster.  Of those that fail, only
deletions may be passed over, and these have been carried out or have done nothing. -/
structure Truthful (api : Api σ) (cluster : σ → Cluster) : Prop where
  list : ∀ tree, (api.list tree).Truthful cluster (Cluster.api.list tree)
  namespaceExists : ∀ ns,
    (api.namespaceExists ns).Truthful cluster (Cluster.api.namespaceExists ns)
  create : ∀ b, (api.create b).Truthful cluster (Cluster.api.create b)
  replace : ∀ b, (api.replace b).Truthful cluster (Cluster.api.replace b)
  delete : ∀ key, (api.delete key).Truthful cluster (Cluster.api.delete key)
  failed : ∀ key s f s', api.delete key s = (.error f, s') →
    cluster s' = cluster s ∨ cluster s' = (cluster s).removeBinding key

/-- A server whose failures are safe says the truth. -/
theorem FailsSafely.truthful {api : Api σ} {cluster : σ → Cluster} (h : api.FailsSafely cluster) :
    api.Truthful cluster where
  list tree _ _ _ := (h.list tree).ok
  namespaceExists ns _ _ _ := (h.namespaceExists ns).ok
  create b _ _ _ := (h.create b).ok
  replace b _ _ _ := (h.replace b).ok
  delete key _ _ _ := (h.delete key).ok
  failed key _ _ _ hrun := .inl ((h.delete key).error hrun)

end Api

namespace Cluster

/-- Carries out a call, unless it is made to fail; calls are counted. -/
def attempt {α : Type} (fails : Nat → Call → Option Fault) (c : Call) (a : Action Cluster α) :
    Action (Nat × Cluster) α := fun s =>
  match fails s.1 c with
  | some f => (.error f, (s.1 + 1, s.2))
  | none => ((a s.2).1, (s.1 + 1, (a s.2).2))

/-- A cluster whose `n`-th call `c` fails with `fails n c`. -/
def flaky (fails : Nat → Call → Option Fault) : Api (Nat × Cluster) where
  list tree := attempt fails (.list tree) (api.list tree)
  namespaceExists ns := attempt fails (.namespaceExists ns) (api.namespaceExists ns)
  create b := attempt fails (.create b) (api.create b)
  replace b := attempt fails (.replace b) (api.replace b)
  delete key := attempt fails (.delete key) (api.delete key)
  patchStatus name s := attempt fails (.patchStatus name s) (api.patchStatus name s)

/-- One call fails, whatever it is. -/
def hiccup (turn n : Nat) (_ : Call) : Option Fault :=
  if n = turn then some (.internal "server" "out of order") else none

variable {title : BindingKey → String} {K K' : Cluster} {b : Binding} {key : BindingKey}

@[simp] theorem get?_putBinding_self (K : Cluster) (b : Binding) :
    (K.putBinding b).bindings.get? b.key = some b :=
  OrderedMap.get?_insert_self _ _ _

theorem get?_putBinding_of_ne (K : Cluster) (h : key ≠ b.key) :
    (K.putBinding b).bindings.get? key = K.bindings.get? key :=
  OrderedMap.get?_insert_of_ne _ _ h

@[simp] theorem get?_removeBinding_self (K : Cluster) (key : BindingKey) :
    (K.removeBinding key).bindings.get? key = none :=
  OrderedMap.get?_erase_self _ _

theorem get?_removeBinding_of_ne {key' : BindingKey} (K : Cluster) (h : key' ≠ key) :
    (K.removeBinding key).bindings.get? key' = K.bindings.get? key' :=
  OrderedMap.get?_erase_of_ne _ h

/-- To remove what is not there does nothing. -/
theorem removeBinding_of_absent (h : K.bindings.get? key = none) : K.removeBinding key = K := by
  have hbindings : K.bindings.erase key = K.bindings := by
    refine OrderedMap.ext_get? fun k => ?_
    by_cases hk : k = key
    · rw [hk, h, OrderedMap.get?_erase_self]
    · exact OrderedMap.get?_erase_of_ne _ hk
  rw [removeBinding, hbindings]

/-- A status is none of the bindings' business. -/
@[simp] theorem bindings_putStatus (K : Cluster) (name : String) (status : Status) :
    (K.putStatus name status).bindings = K.bindings := by
  unfold putStatus
  cases K.trees.get? name <;> rfl

@[simp] theorem namespaces_putStatus (K : Cluster) (name : String) (status : Status) :
    (K.putStatus name status).namespaces = K.namespaces := by
  unfold putStatus
  cases K.trees.get? name <;> rfl

/-- A creation stores a binding where there is none. -/
theorem create_conditional (title : BindingKey → String) (b : Binding) :
    (create title b).Conditional (fun K => K.bindings.get? b.key = none)
      fun K => K.putBinding b := by
  constructor
  · intro K habsent
    rw [create, if_neg (Bool.eq_false_iff.1 (OrderedMap.contains_eq_false_iff.2 habsent))]
  · intro K hthere
    rw [← OrderedMap.contains_eq_false_iff, Bool.not_eq_false] at hthere
    exact ⟨_, if_pos hthere⟩

/-- A replacement stores a binding where there is one. -/
theorem replace_conditional (title : BindingKey → String) (b : Binding) :
    (replace title b).Conditional (fun K => ∃ held, K.bindings.get? b.key = some held)
      fun K => K.putBinding b := by
  constructor
  · exact fun K hthere => if_pos (OrderedMap.contains_iff.2 hthere)
  · exact fun K habsent => ⟨_, if_neg fun hthere => habsent (OrderedMap.contains_iff.1 hthere)⟩

/-- A deletion removes a binding where there is one. -/
theorem delete_conditional (title : BindingKey → String) (key : BindingKey) :
    (delete title key).Conditional (fun K => ∃ held, K.bindings.get? key = some held)
      fun K => K.removeBinding key := by
  constructor
  · exact fun K hthere => if_pos (OrderedMap.contains_iff.2 hthere)
  · exact fun K habsent => ⟨_, if_neg fun hthere => habsent (OrderedMap.contains_iff.1 hthere)⟩

/-- A creation changes nothing but bindings. -/
theorem create_only (title : BindingKey → String) (b : Binding) (K : Cluster) :
    (create title b K).2 = { K with bindings := (create title b K).2.bindings } :=
  (create_conditional title b).keeps_at (P := fun K' => K' = { K with bindings := K'.bindings })
    rfl fun _ => rfl

/-- Nor does a replacement. -/
theorem replace_only (title : BindingKey → String) (b : Binding) (K : Cluster) :
    (replace title b K).2 = { K with bindings := (replace title b K).2.bindings } :=
  (replace_conditional title b).keeps_at (P := fun K' => K' = { K with bindings := K'.bindings })
    rfl fun _ => rfl

/-- Nor does a deletion. -/
theorem delete_only (title : BindingKey → String) (key : BindingKey) (K : Cluster) :
    (delete title key K).2 = { K with bindings := (delete title key K).2.bindings } :=
  (delete_conditional title key).keeps_at (P := fun K' => K' = { K with bindings := K'.bindings })
    rfl fun _ => rfl

/-- A creation succeeds exactly where nothing stands at the key. -/
theorem create_eq_ok_iff :
    create title b K = (.ok (), K') ↔ K.bindings.get? b.key = none ∧ K' = K.putBinding b :=
  (create_conditional title b).eq_ok_iff

/-- A replacement succeeds exactly where something stands at the key. -/
theorem replace_eq_ok_iff :
    replace title b K = (.ok (), K') ↔ (∃ held, K.bindings.get? b.key = some held) ∧
      K' = K.putBinding b :=
  (replace_conditional title b).eq_ok_iff

/-- A deletion succeeds exactly where something stands at the key. -/
theorem delete_eq_ok_iff :
    delete title key K = (.ok (), K') ↔ (∃ held, K.bindings.get? key = some held) ∧
      K' = K.removeBinding key :=
  (delete_conditional title key).eq_ok_iff

/-- A deletion fails only where there is nothing. -/
theorem get?_of_delete_eq_error {f : Fault} (h : delete title key K = (.error f, K')) :
    K.bindings.get? key = none := by
  obtain ⟨habsent, -⟩ := (delete_conditional title key).eq_error h
  exact Option.eq_none_iff_forall_ne_some.2 fun held hheld => habsent ⟨held, hheld⟩

/-- A call that is made to fail changes nothing, so it need only be looked at
where it is carried out. -/
theorem attempt_follows {α : Type} {fails : Nat → Call → Option Fault} {c : Call}
    {a : Action Cluster α} (ha : ∀ K f K', a K = (.error f, K') → K' = K) :
    (attempt fails c a).Follows Prod.snd a := by
  intro s x s' h
  unfold attempt at h
  cases hfails : fails s.1 c with
  | some f =>
      rw [hfails] at h
      obtain ⟨rfl, rfl⟩ := Action.outcome_eq_iff.1 h
      rfl
  | none =>
      rw [hfails] at h
      rcases hrun : a s.2 with ⟨f | y, K'⟩
      · rw [hrun] at h
        obtain ⟨rfl, rfl⟩ := Action.outcome_eq_iff.1 h
        exact ha _ _ _ hrun
      · rw [hrun] at h
        obtain ⟨rfl, rfl⟩ := Action.outcome_eq_iff.1 h
        rfl

/-- Whatever the pattern of failures, it is safe. -/
theorem flaky_failsSafely (fails : Nat → Call → Option Fault) :
    (flaky fails).FailsSafely Prod.snd where
  list _ := attempt_follows fun _ _ _ h => by simp [api] at h
  namespaceExists _ := attempt_follows fun _ _ _ h => by simp [api] at h
  create b := attempt_follows fun _ _ _ h => ((create_conditional _ b).eq_error h).2
  replace b := attempt_follows fun _ _ _ h => ((replace_conditional _ b).eq_error h).2
  delete key := attempt_follows fun _ _ _ h => ((delete_conditional _ key).eq_error h).2

/-- Deletions are honest if none is made to fail by finding nothing. -/
theorem flaky_deletesHonestly {fails : Nat → Call → Option Fault}
    (h : ∀ n key f, fails n (.delete key) = some f → f.isNotFound = false) :
    (flaky fails).DeletesHonestly Prod.snd := by
  intro key s f s' hdelete hmissing
  have hattempt : attempt fails (.delete key) (api.delete key) s = (.error f, s') := hdelete
  unfold attempt at hattempt
  cases hfails : fails s.1 (.delete key) with
  | some f' =>
      rw [hfails] at hattempt
      obtain ⟨heq, -⟩ := Action.outcome_eq_iff.1 hattempt
      obtain rfl := Except.error.inj heq
      rw [h _ _ _ hfails] at hmissing
      cases hmissing
  | none =>
      rw [hfails] at hattempt
      obtain ⟨heq, -⟩ := Action.outcome_eq_iff.1 hattempt
      exact get?_of_delete_eq_error (Prod.ext heq rfl)

/-- A server with one hiccup says that something is absent only if it is. -/
theorem hiccup_deletesHonestly (turn : Nat) :
    (flaky (hiccup turn)).DeletesHonestly Prod.snd := by
  refine flaky_deletesHonestly fun n key f hf => ?_
  unfold hiccup at hf
  by_cases hn : n = turn
  · rw [if_pos hn] at hf
    obtain rfl := Option.some.inj hf
    rfl
  · rw [if_neg hn] at hf
    cases hf

end Cluster

end FolderGrants
