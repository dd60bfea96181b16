import FolderGrants.Proofs.PassOutcome
import FolderGrants.Proofs.Recording
import FolderGrants.Proofs.TrialTrace

/-!
# The calls of changes, one by one

Changes are made one after the other, up to the first that fails.  A creation asks for
the namespace first and goes on only if it is there; a renewal and a removal are one call
each; a change that lacks a binding it needs fails without a call.  On a server whose
failing calls change nothing, a change that fails has therefore done nothing, and what
stands behind the server is what the changes before it have left.

This holds of all lists of changes, also of those that no comparison gives.

* `Change.Runs` — the calls of one change, what comes of it and what it leaves;
* `Change.RunsAll` — the calls of changes that all succeed;
* `Change.runs_of_apply`, `Change.runsAll_of_applyAll` — these are the calls, of one
  change and of a list of them;
* `Change.effect`, `Change.outcomeOn` — what a change that succeeds does and is counted
  as, as functions of the cluster;
* `Change.applyAll_exact_prefix` — what has been called and done, wherever it ends.
-/

namespace FolderGrants

variable {σ : Type} {api : Api σ} {cluster : σ → Cluster}

/-- Where two lists are put together, an element stands in the first or in the second. -/
theorem cut_of_append {α : Type} {l l' before after : List α} {a : α}
    (h : l ++ l' = before ++ a :: after) :
    (∃ rest, l = before ++ a :: rest) ∨
      ∃ first, before = l ++ first ∧ l' = first ++ a :: after := by
  rcases List.append_eq_append_iff.1 h with ⟨first, hbefore, hl'⟩ | ⟨_ | ⟨a', rest⟩, hl, ha⟩
  · exact .inr ⟨first, hbefore, hl'⟩
  · exact .inr ⟨[], by simpa using hl.symm, ha.symm⟩
  · obtain ⟨rfl, -⟩ := List.cons.inj ha
    exact .inl ⟨rest, hl⟩

/-- A list of one element is cut nowhere else. -/
theorem singleton_ne_cut {α : Type} {before after : List α} {a x : α} (h : x ≠ a) :
    [x] ≠ before ++ a :: after := by
  intro heq
  have hmem : a ∈ [x] := by simp [heq]
  exact h (List.mem_singleton.1 hmem).symm

/-- A list of two elements that is not cut at the first is cut at the second. -/
theorem pair_cut {α : Type} {before after : List α} {a x y : α} (hx : x ≠ a)
    (h : [x, y] = before ++ a :: after) : before = [x] ∧ y = a := by
  cases before with
  | nil => exact absurd (List.cons.inj h).1 hx
  | cons first rest =>
      obtain ⟨rfl, htail⟩ := List.cons.inj h
      cases rest with
      | nil => exact ⟨rfl, (List.cons.inj htail).1⟩
      | cons second rest => simp at htail

/-- A call that fails safely still does if it is recorded. -/
theorem Action.Follows.scripted {ρ α : Type} {view : σ → ρ} {a : Action σ α} {ideal : Action ρ α}
    (h : a.Follows view ideal) (c : Call) :
    (Scripted.perform c a).Follows (fun s => view s.world) ideal := by
  intro s out s' hrun
  cases out with
  | ok y => exact h.ok (Scripted.run_of_perform_eq_ok hrun)
  | error f =>
      rcases Scripted.run_of_perform_eq_error hrun with hsame | hfailed
      · exact congrArg view hsame
      · exact h.error hfailed

/-- A server whose failures are safe is so behind a script as well. -/
theorem Api.FailsSafely.scripted (h : api.FailsSafely cluster) :
    (Scripted.api api).FailsSafely fun s => cluster s.world where
  list tree := (h.list tree).scripted _
  namespaceExists ns := (h.namespaceExists ns).scripted _
  create b := (h.create b).scripted _
  replace b := (h.replace b).scripted _
  delete key := (h.delete key).scripted _

namespace Change

/-- The change lacks a binding that it needs. -/
def Lacking (c : Change) : Prop :=
  c.kind = .create ∧ c.desired = none ∨
    c.kind = .update ∧ (c.existing = none ∨ c.desired = none)

/-- `c.Runs K calls out K'`: made on the cluster `K`, the change makes these calls, in
order, comes out like that and leaves `K'`. -/
inductive Runs (c : Change) (K : Cluster) :
    List CallRecord → Except Fault Outcome → Cluster → Prop
  | created {b : Binding} (hkind : c.kind = .create) (hdesired : c.desired = some b)
      (hns : K.hasNamespace c.ns = true) (habsent : K.bindings.get? b.key = none) :
      Runs c K [⟨.namespaceExists c.ns, none⟩, ⟨.create b, none⟩] (.ok .created) (K.putBinding b)
  | skipped {b : Binding} (hkind : c.kind = .create) (hdesired : c.desired = some b)
      (hns : K.hasNamespace c.ns = false) :
      Runs c K [⟨.namespaceExists c.ns, none⟩] (.ok .skipped) K
  | updated {existing desired : Binding} (hkind : c.kind = .update)
      (hexisting : c.existing = some existing) (hdesired : c.desired = some desired)
      (hthere : ∃ held, K.bindings.get? (existing.refreshed desired).key = some held) :
      Runs c K [⟨.replace (existing.refreshed desired), none⟩] (.ok .updated)
        (K.putBinding (existing.refreshed desired))
  | deleted (hkind : c.kind = .delete) (hthere : ∃ held, K.bindings.get? c.key = some held) :
      Runs c K [⟨.delete c.key, none⟩] (.ok .deleted) (K.removeBinding c.key)
  /-- What is said to be gone already counts as deleted. -/
  | missing {f : Fault} (hkind : c.kind = .delete) (hmissing : f.isNotFound = true) :
      Runs c K [⟨.delete c.key, some f⟩] (.ok .deleted) K
  | notAsked {b : Binding} {f : Fault} (hkind : c.kind = .create) (hdesired : c.desired = some b) :
      Runs c K [⟨.namespaceExists c.ns, some f⟩] (.error f) K
  | notCreated {b : Binding} {f : Fault} (hkind : c.kind = .create)
      (hdesired : c.desired = some b) (hns : K.hasNamespace c.ns = true) :
      Runs c K [⟨.namespaceExists c.ns, none⟩, ⟨.create b, some f⟩] (.error f) K
  | notUpdated {existing desired : Binding} {f : Fault} (hkind : c.kind = .update)
      (hexisting : c.existing = some existing) (hdesired : c.desired = some desired) :
      Runs c K [⟨.replace (existing.refreshed desired), some f⟩] (.error f) K
  | notDeleted {f : Fault} (hkind : c.kind = .delete) (hother : f.isNotFound = false) :
      Runs c K [⟨.delete c.key, some f⟩] (.error f) K
  /-- Without a binding that it needs, a change fails before it calls anything. -/
  | incomplete (hlacking : c.Lacking) : Runs c K [] (.error (c.incomplete "executor")) K

/-- The calls of changes that succeed one after the other. -/
inductive RunsAll : List Change → Cluster → List CallRecord → Cluster → Prop
  | nil (K : Cluster) : RunsAll [] K [] K
  | cons {c : Change} {rest : List Change} {K mid K' : Cluster} {calls more : List CallRecord}
      {o : Outcome} (head : c.Runs K calls (.ok o) mid) (tail : RunsAll rest mid more K') :
      RunsAll (c :: rest) K (calls ++ more) K'

variable {c : Change} {s s' : Scripted σ} {out : Except Fault Outcome}

/-- What a creation calls once its namespace is known to be there. -/
theorem runs_of_create_asked (hsafe : api.FailsSafely cluster) {b : Binding}
    (hkind : c.kind = .create) (hdesired : c.desired = some b)
    (hns : (cluster s.world).hasNamespace c.ns = true)
    (h : ((Scripted.api api).create b >>= fun _ => return Outcome.created) s = (out, s')) :
    ∃ r, c.Runs (cluster s.world) [⟨.namespaceExists c.ns, none⟩, r] out (cluster s'.world) ∧
      s'.log = r :: s.log := by
  rw [Action.bind_run] at h
  rcases hcreate : (Scripted.api api).create b s with ⟨f | u, last⟩
  · have hlog := Scripted.log_of_perform hcreate
    have hsame := (hsafe.scripted.create b).error hcreate
    simp only [hcreate, Action.outcome_eq_iff] at h
    obtain ⟨rfl, rfl⟩ := h
    rw [hsame]
    exact ⟨_, .notCreated hkind hdesired hns, hlog⟩
  · have hlog := Scripted.log_of_perform hcreate
    obtain ⟨habsent, hleft⟩ :=
      Cluster.create_eq_ok_iff.1 ((hsafe.scripted.create b).ok hcreate)
    simp only [hcreate] at h
    obtain ⟨rfl, rfl⟩ := Action.outcome_eq_iff.1 h
    rw [hleft]
    exact ⟨_, .created hkind hdesired hns habsent, hlog⟩

/-- The calls of a creation. -/
theorem runs_of_create (hsafe : api.FailsSafely cluster) {b : Binding} (hkind : c.kind = .create)
    (hdesired : c.desired = some b) (h : c.apply (Scripted.api api) s = (out, s')) :
    ∃ calls, c.Runs (cluster s.world) calls out (cluster s'.world) ∧
      s'.log = calls.reverse ++ s.log := by
  have hrun : ((Scripted.api api).namespaceExists c.ns >>= fun found =>
      if found = true then (Scripted.api api).create b >>= fun _ => return Outcome.created
      else return Outcome.skipped) s = (out, s') := by
    obtain ⟨kind, ns, template, existing, desired⟩ := c
    obtain rfl := hkind
    obtain rfl := hdesired
    exact h
  rw [Action.bind_run] at hrun
  rcases hask : (Scripted.api api).namespaceExists c.ns s with ⟨f | found, mid⟩
  · have hlog := Scripted.log_of_perform hask
    have hsame := (hsafe.scripted.namespaceExists c.ns).error hask
    simp only [hask, Action.outcome_eq_iff] at hrun
    obtain ⟨rfl, rfl⟩ := hrun
    rw [hsame]
    exact ⟨_, .notAsked hkind hdesired, hlog⟩
  · have hlog := Scripted.log_of_perform hask
    -- The question does not move the cluster, and the answer is the cluster's.
    obtain ⟨hfound, hmid⟩ :=
      Action.outcome_eq_iff.1 ((hsafe.scripted.namespaceExists c.ns).ok hask)
    simp only [hask] at hrun
    rw [hmid] at hfound ⊢
    cases found with
    | false =>
        obtain ⟨rfl, rfl⟩ := Action.outcome_eq_iff.1 hrun
        exact ⟨_, .skipped hkind hdesired (Except.ok.inj hfound), hlog⟩
    | true =>
        obtain ⟨r, hruns, hlast⟩ :=
          runs_of_create_asked hsafe hkind hdesired (Except.ok.inj hfound) hrun
        exact ⟨_, hruns, hlast.trans (congrArg (r :: ·) hlog)⟩

/-- The call of a renewal. -/
theorem runs_of_update (hsafe : api.FailsSafely cluster) {existing desired : Binding}
    (hkind : c.kind = .update) (hexisting : c.existing = some existing)
    (hdesired : c.desired = some desired) (h : c.apply (Scripted.api api) s = (out, s')) :
    ∃ calls, c.Runs (cluster s.world) calls out (cluster s'.world) ∧
      s'.log = calls.reverse ++ s.log := by
  obtain ⟨kind, ns, template, existing', desired'⟩ := c
  obtain rfl := hkind
  obtain rfl := hexisting
  obtain rfl := hdesired
  have hrun : ((Scripted.api api).replace (existing.refreshed desired) >>= fun _ =>
      return Outcome.updated) s = (out, s') := h
  rw [Action.bind_run] at hrun
  rcases hreplace : (Scripted.api api).replace (existing.refreshed desired) s with ⟨f | u, last⟩
  · have hlog := Scripted.log_of_perform hreplace
    have hsame := (hsafe.scripted.replace _).error hreplace
    simp only [hreplace, Action.outcome_eq_iff] at hrun
    obtain ⟨rfl, rfl⟩ := hrun
    rw [hsame]
    exact ⟨_, .notUpdated rfl rfl rfl, hlog⟩
  · have hlog := Scripted.log_of_perform hreplace
    obtain ⟨hthere, hleft⟩ :=
      Cluster.replace_eq_ok_iff.1 ((hsafe.scripted.replace _).ok hreplace)
    simp only [hreplace] at hrun
    obtain ⟨rfl, rfl⟩ := Action.outcome_eq_iff.1 hrun
    rw [hleft]
    exact ⟨_, .updated rfl rfl rfl hthere, hlog⟩

/-- The call of a removal. -/
theorem runs_of_delete (hsafe : api.FailsSafely cluster) (hkind : c.kind = .delete)
    (h : c.apply (Scripted.api api) s = (out, s')) :
    ∃ calls, c.Runs (cluster s.world) calls out (cluster s'.world) ∧
      s'.log = calls.reverse ++ s.log := by
  have hrun : (((Scripted.api api).delete c.key).forgiving Fault.isNotFound >>= fun _ =>
      return Outcome.deleted) s = (out, s') := by
    obtain ⟨kind, ns, template, existing, desired⟩ := c
    obtain rfl := hkind
    exact h
  rw [Action.bind_run, Action.forgiving] at hrun
  rcases hdelete : (Scripted.api api).delete c.key s with ⟨f | u, last⟩
  · have hlog := Scripted.log_of_perform hdelete
    have hsame := (hsafe.scripted.delete _).error hdelete
    by_cases hmissing : f.isNotFound = true
    · simp only [hdelete, if_pos hmissing] at hrun
      obtain ⟨rfl, rfl⟩ := Action.outcome_eq_iff.1 hrun
      rw [hsame]
      exact ⟨_, .missing hkind hmissing, hlog⟩
    · simp only [hdelete, if_neg hmissing, Action.outcome_eq_iff] at hrun
      obtain ⟨rfl, rfl⟩ := hrun
      rw [hsame]
      exact ⟨_, .notDeleted hkind (Bool.eq_false_iff.2 hmissing), hlog⟩
  · have hlog := Scripted.log_of_perform hdelete
    obtain ⟨hthere, hleft⟩ := Cluster.delete_eq_ok_iff.1 ((hsafe.scripted.delete _).ok hdelete)
    simp only [hdelete] at hrun
    obtain ⟨rfl, rfl⟩ := Action.outcome_eq_iff.1 hrun
    rw [hleft]
    exact ⟨_, .deleted hkind hthere, hlog⟩

/-- A change that lacks a binding fails at once. -/
theorem runs_of_lacking (hlacking : c.Lacking) (h : c.apply (Scripted.api api) s = (out, s')) :
    ∃ calls, c.Runs (cluster s.world) calls out (cluster s'.world) ∧
      s'.log = calls.reverse ++ s.log := by
  have hrun : (throw (c.incomplete "executor") : Action (Scripted σ) Outcome) s = (out, s') := by
    obtain ⟨kind, ns, template, existing, desired⟩ := c
    rcases hlacking with ⟨rfl, rfl⟩ | ⟨rfl, rfl | rfl⟩
    · exact h
    · exact h
    · cases existing <;> exact h
  obtain ⟨rfl, rfl⟩ := Action.outcome_eq_iff.1 hrun
  exact ⟨[], .incomplete hlacking, rfl⟩

/-- **The calls of one change.** -/
theorem runs_of_apply (hsafe : api.FailsSafely cluster)
    (h : c.apply (Scripted.api api) s = (out, s')) :
    ∃ calls, c.Runs (cluster s.world) calls out (cluster s'.world) ∧
      s'.log = calls.reverse ++ s.log := by
  cases hkind : c.kind with
  | create =>
      cases hdesired : c.desired with
      | none => exact runs_of_lacking (.inl ⟨hkind, hdesired⟩) h
      | some b => exact runs_of_create hsafe hkind hdesired h
  | update =>
      cases hexisting : c.existing with
      | none => exact runs_of_lacking (.inr ⟨hkind, .inl hexisting⟩) h
      | some existing =>
          cases hdesired : c.desired with
          | none => exact runs_of_lacking (.inr ⟨hkind, .inr hdesired⟩) h
          | some desired => exact runs_of_update hsafe hkind hexisting hdesired h
  | delete => exact runs_of_delete hsafe hkind h

/-- What a change that succeeds on a cluster is counted as. -/
def outcomeOn (K : Cluster) (c : Change) : Outcome :=
  match c.kind with
  | .create => if K.hasNamespace c.ns then .created else .skipped
  | .update => .updated
  | .delete => .deleted

namespace Runs

variable {K K' : Cluster} {calls : List CallRecord}

/-- No change touches a namespace. -/
theorem namespaces_eq (h : c.Runs K calls out K') : K'.namespaces = K.namespaces := by
  cases h <;> rfl

/-- What a change comes out as depends on its kind and on its namespace only. -/
theorem outcome_eq {o : Outcome} (h : c.Runs K calls (.ok o) K') : o = c.outcomeOn K := by
  cases h with
  | created hkind _ hns => rw [outcomeOn, hkind, hns]; rfl
  | skipped hkind _ hns => rw [outcomeOn, hkind, hns]; rfl
  | updated hkind => rw [outcomeOn, hkind]
  | deleted hkind => rw [outcomeOn, hkind]
  | missing hkind => rw [outcomeOn, hkind]

/-- A change that fails leaves everything as it is. -/
theorem eq_of_error {f : Fault} (h : c.Runs K calls (.error f) K') : K' = K := by
  cases h <;> rfl

/-- A deletion does not fail by finding nothing. -/
theorem isNotFound_of_error {f : Fault} (h : c.Runs K calls (.error f) K')
    (hdelete : c.kind = .delete) : f.isNotFound = false := by
  cases h with
  | notDeleted _ hother => exact hother
  | notAsked hkind | notCreated hkind | notUpdated hkind => cases hkind.symm.trans hdelete
  | incomplete hlacking =>
      rcases hlacking with ⟨hkind, -⟩ | ⟨hkind, -⟩
      · cases hkind.symm.trans hdelete
      · cases hkind.symm.trans hdelete

/-- A call that creates a binding comes directly after the question for its namespace,
and only where that is there. -/
theorem asked (h : c.Runs K calls out K') {before after : List CallRecord} {b : Binding}
    {fault : Option Fault} (hsplit : calls = before ++ ⟨.create b, fault⟩ :: after) :
    c.kind = .create ∧ c.desired = some b ∧ K.hasNamespace c.ns = true ∧
      before = [⟨.namespaceExists c.ns, none⟩] := by
  have hquestion : (⟨.namespaceExists c.ns, none⟩ : CallRecord) ≠ ⟨.create b, fault⟩ := nofun
  cases h with
  | created hkind hdesired hns =>
      obtain ⟨hbefore, hcreate⟩ := pair_cut hquestion hsplit
      obtain ⟨hsame, -⟩ := CallRecord.mk.inj hcreate
      exact ⟨hkind, Call.create.inj hsame ▸ hdesired, hns, hbefore⟩
  | notCreated hkind hdesired hns =>
      obtain ⟨hbefore, hcreate⟩ := pair_cut hquestion hsplit
      obtain ⟨hsame, -⟩ := CallRecord.mk.inj hcreate
      exact ⟨hkind, Call.create.inj hsame ▸ hdesired, hns, hbefore⟩
  | incomplete => simp at hsplit
  | skipped | updated | deleted | missing | notAsked | notUpdated | notDeleted =>
      exact absurd hsplit (singleton_ne_cut nofun)

end Runs

namespace RunsAll

variable {changes : List Change} {K K' : Cluster} {calls : List CallRecord}

/-- A run of changes leaves the namespaces as they are. -/
theorem namespaces_eq (h : RunsAll changes K calls K') : K'.namespaces = K.namespaces := by
  induction h with
  | nil => rfl
  | cons head _ ih => exact ih.trans head.namespaces_eq

/-- Every call that creates a binding comes directly after the question for its
namespace. -/
theorem asked (h : RunsAll changes K calls K') {before after : List CallRecord} {b : Binding}
    {fault : Option Fault} (hsplit : calls = before ++ ⟨.create b, fault⟩ :: after) :
    ∃ c ∈ changes, ∃ earlier, c.kind = .create ∧ c.desired = some b ∧
      K.hasNamespace c.ns = true ∧ before = earlier ++ [⟨.namespaceExists c.ns, none⟩] := by
  induction h generalizing before with
  | nil => simp at hsplit
  | @cons c rest K mid K' calls more o head tail ih =>
      -- The namespaces stay the same, so the answer is that of the start.
      rcases cut_of_append hsplit with ⟨_, hhead⟩ | ⟨first, rfl, htail⟩
      · obtain ⟨hkind, hdesired, hns, rfl⟩ := head.asked hhead
        exact ⟨c, List.mem_cons_self, [], hkind, hdesired, hns, rfl⟩
      · obtain ⟨c', hc', earlier, hkind, hdesired, hns, rfl⟩ := ih htail
        have hns' : K.hasNamespace c'.ns = true :=
          (Cluster.hasNamespace_of_eq head.namespaces_eq c'.ns).symm.trans hns
        exact ⟨c', List.mem_cons_of_mem _ hc', calls ++ earlier, hkind, hdesired, hns',
          (List.append_assoc ..).symm⟩

end RunsAll

/-- Where the namespaces are the same, changes are counted alike. -/
theorem outcomeOn_eq {K K' : Cluster} (h : K'.namespaces = K.namespaces) (c : Change) :
    c.outcomeOn K' = c.outcomeOn K := by
  rw [outcomeOn, outcomeOn, Cluster.hasNamespace_of_eq h]

/-- **The calls of changes that all succeed**, and how they are counted. -/
theorem runsAll_of_applyAll (hsafe : api.FailsSafely cluster) {changes : List Change}
    {summary total : Summary}
    (h : applyAll (Scripted.api api) changes summary s = (.ok total, s')) :
    ∃ calls, RunsAll changes (cluster s.world) calls (cluster s'.world) ∧
      s'.log = calls.reverse ++ s.log ∧
      total = (changes.map (outcomeOn (cluster s.world))).foldl Summary.count summary := by
  induction changes generalizing s summary with
  | nil =>
      obtain ⟨rfl, rfl⟩ := Action.pure_eq_ok_iff.1 h
      exact ⟨[], .nil _, rfl, rfl⟩
  | cons c rest ih =>
      obtain ⟨o, mid, hhead, htail⟩ := Action.bind_eq_ok_iff.1 h
      obtain ⟨calls, hruns, hlog⟩ := runs_of_apply hsafe hhead
      obtain ⟨more, hall, hlog', htotal⟩ := ih htail
      -- The rest is counted on the cluster that the first change has left.
      have hsame : rest.map (outcomeOn (cluster mid.world)) =
          rest.map (outcomeOn (cluster s.world)) :=
        List.map_congr_left fun c' _ => outcomeOn_eq hruns.namespaces_eq c'
      refine ⟨calls ++ more, .cons hruns hall, ?_, ?_⟩
      · rw [hlog', hlog, List.reverse_append, List.append_assoc]
      · rw [htotal, hsame, hruns.outcome_eq, List.map_cons, List.foldl_cons]

/-- Changes fail at the first one that does, after those before it have succeeded. -/
theorem exists_stop_of_applyAll {changes : List Change} {summary : Summary} {x x' : σ} {f : Fault}
    (h : applyAll api changes summary x = (.error f, x')) :
    ∃ before c after total mid, changes = before ++ c :: after ∧
      applyAll api before summary x = (.ok total, mid) ∧ c.apply api mid = (.error f, x') := by
  induction changes generalizing x summary with
  | nil => exact absurd (congrArg Prod.fst h) nofun
  | cons c rest ih =>
      rcases Action.bind_eq_error_iff.1 h with hhead | ⟨o, mid, hhead, htail⟩
      · exact ⟨[], c, rest, summary, x, rfl, rfl, hhead⟩
      · obtain ⟨before, c', after, total, last, rfl, hbefore, hlast⟩ := ih htail
        exact ⟨c :: before, c', after, total, last, rfl,
          Action.bind_eq_ok_iff.2 ⟨o, mid, hhead, hbefore⟩, hlast⟩

/-- What a change does to a cluster if nothing fails. -/
def effect (K : Cluster) (c : Change) : Cluster :=
  match c.kind, c.written? with
  | .create, some b => if K.hasNamespace c.ns then K.putBinding b else K
  | .update, some b => K.putBinding b
  | .delete, _ => K.removeBinding c.key
  | _, none => K

/-- A change that succeeds has its effect, if what is said to be gone is gone. -/
theorem Made.eq_effect {K K' : Cluster} {o : Outcome} (h : c.Made K o K')
    (hgone : c.kind = .delete → K'.bindings.get? c.key = none) : K' = effect K c := by
  cases h with
  | created hkind hwritten hns => simp only [effect, hkind, hwritten, if_pos hns]
  | skipped hkind hns =>
      have hnot : ¬K.hasNamespace c.ns = true := Bool.eq_false_iff.1 hns
      cases hwritten : c.written? with
      | none => simp only [effect, hkind, hwritten]
      | some b => simp only [effect, hkind, hwritten, if_neg hnot]
  | updated hkind hwritten => simp only [effect, hkind, hwritten]
  | deleted hkind => simp only [effect, hkind]
  | missing hkind => simp only [effect, hkind, Cluster.removeBinding_of_absent (hgone hkind)]

/-- **Where deletions are honest, changes that succeed have their effects, one after the
other.** -/
theorem eq_foldl_effect_of_applyAll (hsafe : api.FailsSafely cluster)
    (hhonest : api.DeletesHonestly cluster) {changes : List Change} {summary total : Summary}
    {x x' : σ} (h : applyAll api changes summary x = (.ok total, x')) :
    cluster x' = changes.foldl effect (cluster x) := by
  induction changes generalizing x summary with
  | nil =>
      obtain ⟨-, rfl⟩ := Action.pure_eq_ok_iff.1 h
      rfl
  | cons c rest ih =>
      obtain ⟨o, mid, hhead, htail⟩ := Action.bind_eq_ok_iff.1 h
      have hstep : cluster mid = effect (cluster x) c :=
        (made_of_apply hsafe.truthful hhead).eq_effect fun hkind =>
          absent_of_apply hsafe.truthful hhonest hkind hhead
      rw [List.foldl_cons, ← hstep]
      exact ih htail

end Change

namespace Summary

/-- How many changes came out in the given way. -/
def counted (s : Summary) : Outcome → Nat
  | .created => s.created
  | .updated => s.updated
  | .deleted => s.deleted
  | .skipped => s.skipped

/-- How many there were. -/
def total (s : Summary) : Nat := s.created + s.updated + s.deleted + s.skipped

/-- To count an outcome adds one to its count, and nothing to any other. -/
theorem counted_count (s : Summary) (o o' : Outcome) :
    (s.count o).counted o' = s.counted o' + if o == o' then 1 else 0 := by
  cases o <;> cases o' <;> rfl

/-- Every outcome that is counted adds one to the total. -/
theorem total_count (s : Summary) (o : Outcome) : (s.count o).total = s.total + 1 := by
  cases o <;> simp only [count, total] <;> omega

/-- Of a list of outcomes each is counted as often as it occurs. -/
theorem counted_foldl_count (outcomes : List Outcome) (s : Summary) (o : Outcome) :
    (outcomes.foldl count s).counted o = s.counted o + outcomes.count o := by
  induction outcomes generalizing s with
  | nil => rfl
  | cons o' rest ih =>
      rw [List.foldl_cons, ih, counted_count, List.count_cons]
      omega

/-- The total grows by the length of the list. -/
theorem total_foldl_count (outcomes : List Outcome) (s : Summary) :
    (outcomes.foldl count s).total = s.total + outcomes.length := by
  induction outcomes generalizing s with
  | nil => rfl
  | cons o rest ih =>
      rw [List.foldl_cons, ih, total_count, List.length_cons]
      omega

end Summary

namespace Change

/-- The calls of changes that are made in the state `x`, in order. -/
def applyCalls (api : Api σ) (changes : List Change) (x : σ) : List CallRecord :=
  (applyAll (Scripted.api api) changes {} (.fresh x)).2.calls

variable {changes : List Change} {x x' : σ}

/-- Changes go as if their calls were not recorded. -/
theorem recorded_applyAll {out : Except Fault Summary} (h : applyAll api changes {} x = (out, x')) :
    ∃ s', applyAll (Scripted.api api) changes {} (.fresh x) = (out, s') ∧ s'.world = x' := by
  obtain ⟨s', hrun, hworld, -⟩ := mirrors_applyAll api changes {} (.fresh x) rfl
  have hplain : applyAll api changes {} (Scripted.fresh x).world = (out, x') := h
  rw [hplain] at hrun hworld
  exact ⟨s', hrun, hworld⟩

/-- And what the recorded ones do the others do, too. -/
theorem applyAll_of_recorded {out : Except Fault Summary} {s' : Scripted σ}
    (h : applyAll (Scripted.api api) changes {} (.fresh x) = (out, s')) :
    applyAll api changes {} x = (out, s'.world) := by
  obtain ⟨s'', hrun, hworld, -⟩ := mirrors_applyAll api changes {} (.fresh x) rfl
  obtain ⟨hout, rfl⟩ := Action.outcome_eq_iff.1 (h.symm.trans hrun)
  exact Prod.ext hout.symm hworld.symm

/-- How changes that all succeed are counted. -/
theorem counted_foldl_outcomeOn (K : Cluster) (changes : List Change) (o : Outcome) :
    ((changes.map (outcomeOn K)).foldl Summary.count {}).counted o =
      changes.countP fun c => c.outcomeOn K == o := by
  rw [Summary.counted_foldl_count, List.count_eq_countP, List.countP_map]
  cases o <;> exact Nat.zero_add _

/-- Only creations are skipped, and these where their namespace is missing. -/
theorem outcomeOn_skipped (K : Cluster) (c : Change) :
    (c.outcomeOn K == .skipped) = (c.kind == .create && !K.hasNamespace c.ns) := by
  rw [outcomeOn]
  cases c.kind <;> cases K.hasNamespace c.ns <;> rfl

/-- Only removals delete, and all of them do. -/
theorem outcomeOn_deleted (K : Cluster) (c : Change) :
    (c.outcomeOn K == .deleted) = (c.kind == .delete) := by
  rw [outcomeOn]
  cases c.kind <;> cases K.hasNamespace c.ns <;> rfl

/-- All are counted, as skipped the creations without a namespace, as deleted all
deletions. -/
theorem counts_of_foldl {K : Cluster} {total : Summary}
    (h : total = (changes.map (outcomeOn K)).foldl Summary.count {}) :
    total.created + total.updated + total.deleted + total.skipped = changes.length ∧
      total.skipped = changes.countP (fun c => c.kind == .create && !K.hasNamespace c.ns) ∧
      total.deleted = changes.countP (·.kind == .delete) := by
  have hall : total.total = changes.length := by
    rw [h, Summary.total_foldl_count, List.length_map]
    exact Nat.zero_add _
  have hskipped := counted_foldl_outcomeOn K changes .skipped
  have hdeleted := counted_foldl_outcomeOn K changes .deleted
  simp only [← h, outcomeOn_skipped, outcomeOn_deleted] at hskipped hdeleted
  exact ⟨hall, hskipped, hdeleted⟩

/-- The calls of changes that all succeed, and what they leave. -/
theorem runsAll_of_ok (hsafe : api.FailsSafely cluster) {total : Summary}
    (h : applyAll api changes {} x = (.ok total, x')) :
    RunsAll changes (cluster x) (applyCalls api changes x) (cluster x') ∧
      total = (changes.map (outcomeOn (cluster x))).foldl Summary.count {} := by
  obtain ⟨s', hrun, rfl⟩ := recorded_applyAll h
  obtain ⟨calls, hall, hlog, htotal⟩ := runsAll_of_applyAll hsafe hrun
  have hcalls : applyCalls api changes x = calls := by
    have hfresh : (Scripted.fresh x).log = [] := rfl
    rw [applyCalls, hrun, Scripted.calls, hlog, hfresh, List.append_nil, List.reverse_reverse]
  exact ⟨hcalls ▸ hall, htotal⟩

/-- The calls of changes of which one fails: those of the changes before it, and its own. -/
theorem runs_of_error (hsafe : api.FailsSafely cluster) {f : Fault}
    (h : applyAll api changes {} x = (.error f, x')) :
    ∃ before c after last total mid, changes = before ++ c :: after ∧
      applyAll api before {} x = (.ok total, mid) ∧ cluster x' = cluster mid ∧
      applyCalls api changes x = applyCalls api before x ++ last ∧
      c.Runs (cluster mid) last (.error f) (cluster mid) := by
  obtain ⟨s', hrun, rfl⟩ := recorded_applyAll h
  obtain ⟨before, c, after, total, mid, hsplit, hbefore, hlast⟩ := exists_stop_of_applyAll hrun
  obtain ⟨last, hruns, hlog⟩ := runs_of_apply hsafe hlast
  have hleft : cluster s'.world = cluster mid.world := hruns.eq_of_error
  have hcalls : applyCalls api changes x = applyCalls api before x ++ last := by
    rw [applyCalls, applyCalls, hrun, hbefore, Scripted.calls, Scripted.calls, hlog,
      List.reverse_append, List.reverse_reverse]
  exact ⟨before, c, after, last, total, mid.world, hsplit, applyAll_of_recorded hbefore, hleft,
    hcalls, hleft ▸ hruns⟩

/-- Wherever the changes end, a binding is only created after the question for its
namespace. -/
theorem asked_of_applyCalls (hsafe : api.FailsSafely cluster) {before after : List CallRecord}
    {b : Binding} {fault : Option Fault}
    (hcut : applyCalls api changes x = before ++ ⟨.create b, fault⟩ :: after) :
    ∃ c ∈ changes, ∃ earlier, c.kind = .create ∧ c.desired = some b ∧
      (cluster x).hasNamespace c.ns = true ∧
      before = earlier ++ [⟨.namespaceExists c.ns, none⟩] := by
  rcases hrun : applyAll api changes {} x with ⟨f | total, x'⟩
  · obtain ⟨first, c, rest, last, total, mid, rfl, hfirst, -, hcalls, hlast⟩ :=
      runs_of_error hsafe hrun
    have hall := (runsAll_of_ok hsafe hfirst).1
    rw [hcalls] at hcut
    rcases cut_of_append hcut with ⟨_, hin⟩ | ⟨own, rfl, hin⟩
    · obtain ⟨c', hc', hasked⟩ := hall.asked hin
      exact ⟨c', List.mem_append_left _ hc', hasked⟩
    · obtain ⟨hkind, hdesired, hns, rfl⟩ := hlast.asked hin
      have hns' : (cluster x).hasNamespace c.ns = true :=
        (Cluster.hasNamespace_of_eq hall.namespaces_eq c.ns).symm.trans hns
      exact ⟨c, by simp, _, hkind, hdesired, hns', rfl⟩
  · exact (runsAll_of_ok hsafe hrun).1.asked hcut

/-- **Changes are made up to an exact point.**  On a server whose failing calls change
nothing, whatever the changes are and whichever calls fail:

* if all goes well, every change is counted once, as skipped exactly the creations whose
  namespace is not there, as deleted all deletions, also those that are answered with
  nothing found; the calls are those of the changes, one after the other, and so is what
  they leave;
* otherwise there is a first change that fails: the calls are those of the changes before
  it and its own, it reports the fault that is returned and has changed nothing, and what
  is left is what the changes before it have left; a deletion does not fail by finding
  nothing;
* a binding is only created directly after the question whether the namespace of that
  change exists, and where it does.

If only what is gone is said to be gone, what is left can be told from the changes
alone. -/
theorem applyAll_exact_prefix (hsafe : api.FailsSafely cluster) (changes : List Change) (x : σ) :
    (∀ total x', applyAll api changes {} x = (.ok total, x') →
      total.created + total.updated + total.deleted + total.skipped = changes.length ∧
      total.skipped =
        changes.countP (fun c => c.kind == .create && !(cluster x).hasNamespace c.ns) ∧
      total.deleted = changes.countP (·.kind == .delete) ∧
      RunsAll changes (cluster x) (applyCalls api changes x) (cluster x') ∧
      (api.DeletesHonestly cluster → cluster x' = changes.foldl effect (cluster x))) ∧
    (∀ f x', applyAll api changes {} x = (.error f, x') →
      ∃ before c after calls last, changes = before ++ c :: after ∧
        applyCalls api changes x = calls ++ last ∧
        RunsAll before (cluster x) calls (cluster x') ∧
        c.Runs (cluster x') last (.error f) (cluster x') ∧
        (c.kind = .delete → f.isNotFound = false) ∧
        (api.DeletesHonestly cluster → cluster x' = before.foldl effect (cluster x))) ∧
    ∀ before b fault after, applyCalls api changes x = before ++ ⟨.create b, fault⟩ :: after →
      ∃ c ∈ changes, ∃ earlier, c.kind = .create ∧ c.desired = some b ∧
        (cluster x).hasNamespace c.ns = true ∧
        before = earlier ++ [⟨.namespaceExists c.ns, none⟩] := by
  refine ⟨fun total x' h => ?_, fun f x' h => ?_, fun before b fault after hcut =>
    asked_of_applyCalls hsafe hcut⟩
  · obtain ⟨hall, htotal⟩ := runsAll_of_ok hsafe h
    obtain ⟨hcount, hskipped, hdeleted⟩ := counts_of_foldl htotal
    exact ⟨hcount, hskipped, hdeleted, hall, fun hhonest =>
      eq_foldl_effect_of_applyAll hsafe hhonest h⟩
  · obtain ⟨before, c, after, last, total, mid, hsplit, hbefore, hleft, hcalls, hlast⟩ :=
      runs_of_error hsafe h
    have hall := (runsAll_of_ok hsafe hbefore).1
    rw [hleft]
    exact ⟨before, c, after, _, last, hsplit, hcalls, hall, hlast, hlast.isNotFound_of_error,
      fun hhonest => eq_foldl_effect_of_applyAll hsafe hhonest hbefore⟩

/-- A binding at a key. -/
def bindingAt (key : BindingKey) : Binding where
  metadata := { name := some key.name, ns := some key.ns }
  roleRef := .clusterRole "edit"

/-- A cluster with one namespace and one binding there. -/
def wardCluster : Cluster where
  namespaces := .ofList [("ward-ns", ())]
  bindings := .ofList [(⟨"ward-ns", "day"⟩, bindingAt ⟨"ward-ns", "day"⟩)]

/-- A creation without a namespace, one with it, the deletion of what is not there, a
renewal that lacks the existing binding, and the deletion of what is there. -/
def wardChanges : List Change :=
  [.creation ⟨"attic-ns", "day"⟩ "day" (bindingAt ⟨"attic-ns", "day"⟩),
   .creation ⟨"ward-ns", "night"⟩ "night" (bindingAt ⟨"ward-ns", "night"⟩),
   .removal ⟨"ward-ns", "spare"⟩ ⟨bindingAt ⟨"ward-ns", "spare"⟩, "spare"⟩,
   ⟨.update, "ward-ns", "day", none, some (bindingAt ⟨"ward-ns", "day"⟩)⟩,
   .removal ⟨"ward-ns", "day"⟩ ⟨bindingAt ⟨"ward-ns", "day"⟩, "day"⟩]

theorem applyAll_exact_prefix_ward :
    (∃ total s', applyAll (Cluster.flaky (Cluster.hiccup 4)) (wardChanges.take 3) {}
        (0, wardCluster) = (.ok total, s') ∧ total = ⟨1, 0, 1, 1⟩ ∧
      s'.2 = (wardChanges.take 3).foldl effect wardCluster) ∧
    (∃ f s', applyAll (Cluster.flaky (Cluster.hiccup 2)) wardChanges {} (0, wardCluster) =
        (.error f, s') ∧
      ∃ before c after calls last, wardChanges = before ++ c :: after ∧
        applyCalls (Cluster.flaky (Cluster.hiccup 2)) wardChanges (0, wardCluster) =
          calls ++ last ∧
        RunsAll before wardCluster calls s'.2 ∧ c.Runs s'.2 last (.error f) s'.2) ∧
    (applyCalls (Cluster.flaky (Cluster.hiccup 4)) wardChanges (0, wardCluster)).map
        (fun r => (r.call.verb, r.fault.isSome)) =
      [("namespace_exists", false), ("namespace_exists", false), ("create", false),
        ("delete", true)] := by
  have hsafe := Cluster.flaky_failsSafely (Cluster.hiccup 4)
  obtain ⟨hok, -⟩ := applyAll_exact_prefix hsafe (wardChanges.take 3) (0, wardCluster)
  obtain ⟨-, herror, -⟩ := applyAll_exact_prefix (Cluster.flaky_failsSafely (Cluster.hiccup 2))
    wardChanges (0, wardCluster)
  obtain ⟨-, -, -, -, hleft⟩ := hok _ _ rfl
  obtain ⟨before, c, after, calls, last, hsplit, hcalls, hall, hlast, -⟩ := herror _ _ rfl
  exact ⟨⟨_, _, rfl, rfl, hleft (Cluster.hiccup_deletesHonestly 4)⟩,
    ⟨_, _, rfl, before, c, after, calls, last, hsplit, hcalls, hall, hlast⟩, rfl⟩

end Change

end FolderGrants
