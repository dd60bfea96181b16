import FolderGrants.Cluster.Script
import FolderGrants.Proofs.PassInvariants

/-!
# What a pass sends

The calls of a pass are recorded whatever comes of them, so that what a pass
sends can be read off the record.  A pass sends a binding only to create it or
to replace another one with it, and each binding it sends gives the access of
one that its tree requires.  The server may answer as it likes, and list what
it likes.

* `Action.WritesOnly` — an action sends only bindings of some kind, told as
  something that it keeps;
* `FolderTree.reconcile_writesOnly` — what a pass sends.
-/

namespace FolderGrants

/-- The binding that a call sends, if it sends one to be kept. -/
def Call.written? : Call → Option Binding
  | .create b => some b
  | .replace b => some b
  | _ => none

/-- Creations and replacements write, and nothing else does. -/
theorem Call.written?_eq_some_iff {c : Call} {b : Binding} :
    c.written? = some b ↔ c = .create b ∨ c = .replace b := by
  cases c <;> simp [written?]

/-- The key that a call deletes, if it deletes one. -/
def Call.deleted? : Call → Option BindingKey
  | .delete key => some key
  | _ => none

/-- Deletions delete, and nothing else does. -/
theorem Call.deleted?_eq_some_iff {c : Call} {key : BindingKey} :
    c.deleted? = some key ↔ c = .delete key := by
  cases c <;> simp [deleted?]

/-- The fault that an outcome reports. -/
def Action.fault? {α : Type} : Except Fault α → Option Fault
  | .ok _ => none
  | .error f => some f

namespace Scripted

variable {ω α : Type} {c : Call} {a : Action ω α} {s s' : Scripted ω}

/-- Every call is recorded, with what it was answered. -/
theorem log_perform (c : Call) (a : Action ω α) (s : Scripted ω) :
    ∃ fault, (perform c a s).2.log = ⟨c, fault⟩ :: s.log := by
  unfold perform
  cases FailureRule.take c s.rules with
  | some failure => exact ⟨_, rfl⟩
  | none =>
      rcases a s.world with ⟨f | x, w⟩
      · exact ⟨_, rfl⟩
      · exact ⟨_, rfl⟩

/-- A call that succeeds is recorded as a success. -/
theorem log_of_perform_eq_ok {x : α} (h : perform c a s = (.ok x, s')) :
    s'.log = ⟨c, none⟩ :: s.log := by
  unfold perform at h
  cases htake : FailureRule.take c s.rules with
  | some failure => simp [htake] at h
  | none =>
      rcases hrun : a s.world with ⟨f | y, w⟩
      · simp [htake, hrun] at h
      · simp only [htake, hrun, Action.outcome_eq_iff] at h
        rw [← h.2]

/-- A call that fails is recorded with its fault. -/
theorem log_of_perform_eq_error {f : Fault} (h : perform c a s = (.error f, s')) :
    s'.log = ⟨c, some f⟩ :: s.log := by
  unfold perform at h
  cases htake : FailureRule.take c s.rules with
  | some failure =>
      simp only [htake, Action.outcome_eq_iff, Except.error.injEq] at h
      rw [← h.1, ← h.2]
  | none =>
      rcases hrun : a s.world with ⟨f' | y, w⟩
      · simp only [htake, hrun, Action.outcome_eq_iff, Except.error.injEq] at h
        rw [← h.1, ← h.2]
      · simp [htake, hrun] at h

/-- Whatever comes of a call, it is recorded with that. -/
theorem log_of_perform {out : Except Fault α} (h : perform c a s = (out, s')) :
    s'.log = ⟨c, Action.fault? out⟩ :: s.log := by
  cases out with
  | ok x => exact log_of_perform_eq_ok h
  | error f => exact log_of_perform_eq_error h

/-- A call that succeeds has been carried out. -/
theorem run_of_perform_eq_ok {x : α} (h : perform c a s = (.ok x, s')) :
    a s.world = (.ok x, s'.world) := by
  unfold perform at h
  cases htake : FailureRule.take c s.rules with
  | some failure => simp [htake] at h
  | none =>
      rcases hrun : a s.world with ⟨f | y, w⟩
      · simp [htake, hrun] at h
      · simp only [htake, hrun, Action.outcome_eq_iff, Except.ok.injEq] at h
        rw [h.1, ← h.2]

/-- A call that fails was made to fail, or was carried out and failed. -/
theorem run_of_perform_eq_error {f : Fault} (h : perform c a s = (.error f, s')) :
    s'.world = s.world ∨ a s.world = (.error f, s'.world) := by
  unfold perform at h
  cases htake : FailureRule.take c s.rules with
  | some failure =>
      simp only [htake, Action.outcome_eq_iff] at h
      obtain ⟨-, rfl⟩ := h
      exact .inl rfl
  | none =>
      rcases hrun : a s.world with ⟨g | y, w⟩
      · simp only [htake, hrun, Action.outcome_eq_iff, Except.error.injEq] at h
        obtain ⟨rfl, rfl⟩ := h
        exact .inr rfl
      · simp [htake, hrun] at h

/-- A call is carried out, or leaves the world as it is. -/
theorem world_perform (c : Call) (a : Action ω α) (s : Scripted ω) :
    (perform c a s).2.world = s.world ∨ (perform c a s).2.world = (a s.world).2 := by
  unfold perform
  cases FailureRule.take c s.rules with
  | some failure => exact .inl rfl
  | none =>
      rcases a s.world with ⟨f | x, w⟩
      · exact .inr rfl
      · exact .inr rfl

end Scripted

/-- Every call that was recorded after `log` sends only bindings that satisfy `P`. -/
def Scripted.SentSince {ω : Type} (P : Binding → Prop) (log : List CallRecord)
    (s : Scripted ω) : Prop :=
  ∀ r ∈ s.log, r ∈ log ∨ ∀ b, r.call.written? = some b → P b

namespace Action

variable {ω α : Type} {P : Binding → Prop} {log : List CallRecord} {c : Call} {b : Binding}

/-- Whatever comes of the calls of `a`, the bindings that it sends satisfy `P`. -/
def WritesOnly (P : Binding → Prop) (a : Action (Scripted ω) α) : Prop :=
  ∀ s, ∀ r ∈ (a s).2.log, r ∈ s.log ∨ ∀ b, r.call.written? = some b → P b

/-- What an action sends can be told as something that it keeps. -/
theorem writesOnly_of_keeps {a : Action (Scripted ω) α}
    (h : ∀ log, a.Keeps (Scripted.SentSince P log)) : a.WritesOnly P :=
  fun s => h s.log s fun _ => .inl

/-- A call that sends only what satisfies `P` keeps it so that only such bindings were
sent. -/
theorem keeps_sentSince_perform (a : Action ω α) (h : ∀ b, c.written? = some b → P b) :
    (Scripted.perform c a).Keeps (Scripted.SentSince P log) := by
  intro s hs r hr
  obtain ⟨fault, hlog⟩ := Scripted.log_perform c a s
  rw [hlog] at hr
  rcases List.mem_cons.1 hr with rfl | hold
  · exact .inr h
  · exact hs r hold

/-- A call that sends no binding. -/
theorem keeps_sentSince_silent (a : Action ω α) (h : c.written? = none) :
    (Scripted.perform c a).Keeps (Scripted.SentSince P log) := by
  apply keeps_sentSince_perform
  intro b hb
  rw [h] at hb
  cases hb

/-- A call that sends one binding. -/
theorem keeps_sentSince_sending (a : Action ω α) (h : c.written? = some b) (hb : P b) :
    (Scripted.perform c a).Keeps (Scripted.SentSince P log) := by
  apply keeps_sentSince_perform
  intro b' hb'
  obtain rfl := Option.some.inj (h.symm.trans hb')
  exact hb

end Action

namespace FolderTree

variable {ω : Type}

/-- `b` gives the access of a binding that `t` requires. -/
def Wants (t : FolderTree) (b : Binding) : Prop :=
  ∃ owned k g, t.ownedDesired = .ok owned ∧ owned.get? k = some g ∧ b.SameAccess g.binding

/-- What a listed change writes is wanted. -/
theorem wants_of_written {t : FolderTree} {desired : DesiredSet} {live : List Binding} {c : Change}
    {b : Binding} (hdesired : t.ownedDesired = .ok desired)
    (hc : c ∈ desired.changesFrom (.ofBindings live)) (hb : c.written? = some b) : t.Wants b := by
  obtain ⟨g, hg, hserves⟩ := DesiredSet.serves_of_written (desired_keyed hdesired)
    (Baseline.ofBindings_keyed live) hc hb
  have hns : b.key.ns = g.binding.key.ns := by rw [desired_keyed hdesired _ _ hg]
  exact ⟨desired, b.key, g, hdesired, hg, hserves.sameAccess hns⟩

/-- **Passes send what the tree requires.**  Every binding that a pass sends
gives the access of one that its tree requires. -/
theorem reconcile_writesOnly (api : Api ω) (now : Instant) (t : FolderTree) :
    (t.reconcile (Scripted.api api) now).WritesOnly t.Wants := by
  apply Action.writesOnly_of_keeps
  intro log
  refine keeps_reconcile (keeps_syncBindings (Action.keeps_sentSince_silent _ rfl) ?_)
    (fun _ => Action.keeps_sentSince_silent _ rfl) now
  intro desired live _ _ hdesired _ _ c hc
  refine Change.keeps_apply (fun _ => Action.keeps_sentSince_silent _ rfl) ?_ ?_
    fun _ => Action.keeps_sentSince_silent _ rfl
  · intro b _ hb
    exact Action.keeps_sentSince_sending _ rfl (wants_of_written hdesired hc hb)
  · intro b _ hb
    exact Action.keeps_sentSince_sending _ rfl (wants_of_written hdesired hc hb)

end FolderTree

end FolderGrants
