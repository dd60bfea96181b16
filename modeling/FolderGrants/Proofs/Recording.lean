import FolderGrants.Cluster.Script
import FolderGrants.Proofs.Actions

/-!
# Recording the calls of a review

To say what a review has tried out, its calls are recorded.  A recorded
authority asks the same questions of the same server; it answers the same and
leaves the server the same, so nothing is decided otherwise because somebody
looks.  So it is with passes.

* `Authority.recorded` — an authority whose calls are recorded;
* `Action.Mirrors` — an action does what another one does, and keeps a record;
* `FolderTree.mirrors_syncBindings` — a pass goes as if its calls were not recorded;
* `Authority.recorded_checkWrite`, `Authority.recorded_checkDelete` — writes
  and deletions are decided as if their calls were not recorded.
-/

namespace FolderGrants

variable {ω : Type}

/-- A world in which nothing has been called and no call is made to fail. -/
def Scripted.fresh (x : ω) : Scripted ω := ⟨x, [], []⟩

/-- The trials of a requester, recorded. -/
def Trials.recorded (t : Trials ω) : Trials (Scripted ω) where
  create b := Scripted.perform (.create b) (t.create b)
  replace b := Scripted.perform (.replace b) (t.replace b)
  delete key := Scripted.perform (.delete key) (t.delete key)

/-- An authority whose calls in a requester's name are recorded. -/
def Authority.recorded (a : Authority ω) : Authority (Scripted ω) where
  trusted := a.trusted
  actAs r := Scripted.perform (.clientFor r) (a.actAs r) >>= fun t => return t.recorded
  clock := fun s => ((a.clock s.world).1, { s with world := (a.clock s.world).2 })

namespace Action

variable {α β : Type}

/-- Where no call is made to fail, `a` gives what `b` gives and leaves the world
that `b` leaves; it may record calls. -/
def Mirrors (a : Action (Scripted ω) α) (b : Action ω α) : Prop :=
  ∀ s, s.rules = [] →
    ∃ s', a s = ((b s.world).1, s') ∧ s'.world = (b s.world).2 ∧ s'.rules = []

theorem mirrors_pure (x : α) : (pure x : Action (Scripted ω) α).Mirrors (pure x) :=
  fun s hs => ⟨s, rfl, rfl, hs⟩

theorem mirrors_throw (f : Fault) : (throw f : Action (Scripted ω) α).Mirrors (throw f) :=
  fun s hs => ⟨s, rfl, rfl, hs⟩

theorem mirrors_ofExcept (e : Except Fault α) :
    (ofExcept e : Action (Scripted ω) α).Mirrors (ofExcept e) :=
  fun s hs => ⟨s, rfl, rfl, hs⟩

/-- A call gives with a record what it gives without. -/
theorem mirrors_perform (c : Call) (a : Action ω α) : (Scripted.perform c a).Mirrors a := by
  intro s hs
  unfold Scripted.perform
  rw [hs, FailureRule.take]
  rcases a s.world with ⟨f | x, w⟩
  · exact ⟨_, rfl, rfl, rfl⟩
  · exact ⟨_, rfl, rfl, rfl⟩

/-- A sequence mirrors another one if its parts do. -/
theorem Mirrors.bind {a : Action (Scripted ω) α} {b : Action ω α}
    {f : α → Action (Scripted ω) β} {g : α → Action ω β} (hab : a.Mirrors b)
    (hfg : ∀ x, (f x).Mirrors (g x)) : (a >>= f).Mirrors (b >>= g) := by
  intro s hs
  obtain ⟨mid, hrun, hworld, hrules⟩ := hab s hs
  rw [bind_run, bind_run, hrun]
  rcases hb : b s.world with ⟨e | x, w⟩
  · rw [hb] at hworld
    exact ⟨mid, rfl, hworld, hrules⟩
  · rw [hb] at hworld
    have hnext := hfg x mid hrules
    rw [hworld] at hnext
    exact hnext

/-- To forgive faults is the same with a record. -/
theorem Mirrors.forgiving {a : Action (Scripted ω) Unit} {b : Action ω Unit} (h : a.Mirrors b)
    (p : Fault → Bool) : (a.forgiving p).Mirrors (b.forgiving p) := by
  intro s hs
  obtain ⟨s', hrun, hworld, hrules⟩ := h s hs
  unfold Action.forgiving
  rw [hrun]
  rcases hb : b s.world with ⟨f | u, w⟩
  · rw [hb] at hworld
    exact ⟨s', rfl, hworld, hrules⟩
  · rw [hb] at hworld
    exact ⟨s', rfl, hworld, hrules⟩

theorem Mirrors.orTry {a a' : Action (Scripted ω) Unit} {b b' : Action ω Unit}
    (h : a.Mirrors b) (h' : a'.Mirrors b') (p : Fault → Bool) :
    (a.orTry p a').Mirrors (b.orTry p b') := by
  intro s hs
  obtain ⟨mid, hrun, hworld, hrules⟩ := h s hs
  unfold Action.orTry
  rw [hrun]
  rcases hb : b s.world with ⟨f | u, w⟩
  · rw [hb] at hworld
    by_cases hp : p f = true
    · have hnext := h' mid hrules
      rw [hworld] at hnext
      simpa [hp] using hnext
    · exact ⟨mid, by simp [hp], by simpa [hp] using hworld, hrules⟩
  · rw [hb] at hworld
    exact ⟨mid, rfl, hworld, hrules⟩

theorem Mirrors.mapFault {a : Action (Scripted ω) α} {b : Action ω α} (h : a.Mirrors b)
    (f : Fault → Fault) : (a.mapFault f).Mirrors (b.mapFault f) := by
  intro s hs
  obtain ⟨s', hrun, hworld, hrules⟩ := h s hs
  unfold Action.mapFault
  rw [hrun]
  rcases hb : b s.world with ⟨e | x, w⟩
  · rw [hb] at hworld
    exact ⟨s', rfl, hworld, hrules⟩
  · rw [hb] at hworld
    exact ⟨s', rfl, hworld, hrules⟩

end Action

/-- A change is made in the same way with a record. -/
theorem Change.mirrors_apply (api : Api ω) (c : Change) :
    (c.apply (Scripted.api api)).Mirrors (c.apply api) := by
  obtain ⟨kind, ns, template, existing, desired⟩ := c
  cases kind with
  | create =>
      cases desired with
      | none => exact Action.mirrors_throw _
      | some b =>
          refine (Action.mirrors_perform _ _).bind fun found => ?_
          cases found with
          | false => exact Action.mirrors_pure _
          | true => exact (Action.mirrors_perform _ _).bind fun _ => Action.mirrors_pure _
  | update =>
      cases existing with
      | none => exact Action.mirrors_throw _
      | some held =>
          cases desired with
          | none => exact Action.mirrors_throw _
          | some b => exact (Action.mirrors_perform _ _).bind fun _ => Action.mirrors_pure _
  | delete =>
      exact ((Action.mirrors_perform _ _).forgiving _).bind fun _ => Action.mirrors_pure _

/-- So is a list of changes. -/
theorem Change.mirrors_applyAll (api : Api ω) (changes : List Change) (summary : Summary) :
    (applyAll (Scripted.api api) changes summary).Mirrors (applyAll api changes summary) := by
  induction changes generalizing summary with
  | nil => exact Action.mirrors_pure summary
  | cons c rest ih => exact (mirrors_apply api c).bind fun o => ih (summary.count o)

/-- A pass goes as if its calls were not recorded. -/
theorem FolderTree.mirrors_syncBindings (api : Api ω) (t : FolderTree) :
    (t.syncBindings (Scripted.api api)).Mirrors (t.syncBindings api) :=
  (Action.mirrors_ofExcept _).bind fun _ =>
    (Action.mirrors_perform _ _).bind fun _ => Change.mirrors_applyAll api _ _

namespace Authority

variable (a : Authority ω) (t : Trials ω) (tree : String)

/-- A creation is tried out in the same way with a record. -/
theorem mirrors_tryCreate (template : String) (b : Binding) :
    (a.recorded.tryCreate t.recorded tree template b).Mirrors
      (a.tryCreate t tree template b) := by
  intro s hs
  -- The clock is read in both worlds, and the reading names the trial.
  exact Action.mirrors_perform (.create (b.forTrial tree template (a.clock s.world).1)) _
    { s with world := (a.clock s.world).2 } hs

theorem mirrors_tryChange (c : Change) :
    (a.recorded.tryChange t.recorded tree c).Mirrors (a.tryChange t tree c) := by
  obtain ⟨kind, ns, template, existing, desired⟩ := c
  cases kind with
  | create =>
      cases desired with
      | none => exact Action.mirrors_throw _
      | some b => exact mirrors_tryCreate a t tree template b
  | update =>
      cases existing with
      | none => exact Action.mirrors_throw _
      | some held =>
          cases desired with
          | none => exact Action.mirrors_throw _
          | some b =>
              exact (Action.mirrors_perform _ _).orTry (mirrors_tryCreate a t tree template _) _
  | delete => exact (Action.mirrors_perform _ _).forgiving _

theorem mirrors_tryAll (changes : List Change) :
    (a.recorded.tryAll t.recorded tree changes).Mirrors (a.tryAll t tree changes) := by
  induction changes with
  | nil => exact Action.mirrors_pure ()
  | cons c rest ih => exact ((mirrors_tryChange a t tree c).mapFault _).bind fun _ => ih

/-- The client is made before its calls are recorded. -/
theorem mirrors_actAs_bind (r : Requester) {f : Trials (Scripted ω) → Action (Scripted ω) Unit}
    {g : Trials ω → Action ω Unit} (hfg : ∀ t : Trials ω, (f t.recorded).Mirrors (g t)) :
    (a.recorded.actAs r >>= f).Mirrors (a.actAs r >>= g) := by
  intro s hs
  obtain ⟨mid, hrun, hworld, hrules⟩ := Action.mirrors_perform (.clientFor r) (a.actAs r) s hs
  have hclient : a.recorded.actAs r s = ((a.actAs r s.world).1.map Trials.recorded, mid) := by
    show (Scripted.perform (.clientFor r) (a.actAs r) >>= fun t => return t.recorded) s = _
    rw [Action.bind_run, hrun]
    rcases a.actAs r s.world with ⟨e | t, w⟩ <;> rfl
  rw [Action.bind_run, Action.bind_run, hclient]
  rcases hact : a.actAs r s.world with ⟨e | t, w⟩
  · rw [hact] at hworld
    exact ⟨mid, rfl, hworld, hrules⟩
  · rw [hact] at hworld
    have hnext := hfg t mid hrules
    rw [hworld] at hnext
    exact hnext

theorem mirrors_tryDeletions (entries : List (BindingKey × Grant)) :
    (tryDeletions t.recorded entries).Mirrors (tryDeletions t entries) := by
  induction entries with
  | nil => exact Action.mirrors_pure ()
  | cons e rest ih =>
      have hhead : (tryDelete t.recorded e.1).Mirrors (tryDelete t e.1) :=
        (Action.mirrors_perform _ _).forgiving _
      exact (hhead.mapFault _).bind fun _ => ih

/-- **Recording decides nothing.**  A write is let through or refused as if its
calls were not recorded. -/
theorem recorded_checkWrite (r : Requester) (old : Option FolderTree) (new : FolderTree) (x : ω) :
    (a.recorded.checkWrite r old new (.fresh x)).1 = (a.checkWrite r old new x).1 := by
  have hmirrors : (a.recorded.checkWrite r old new).Mirrors (a.checkWrite r old new) := by
    refine (Action.mirrors_ofExcept _).bind fun changes => ?_
    by_cases hempty : changes.isEmpty = true
    · rw [if_pos hempty, if_pos hempty]
      exact Action.mirrors_pure ()
    · rw [if_neg hempty, if_neg hempty]
      exact mirrors_actAs_bind a r fun t => mirrors_tryAll a t new.name changes
  obtain ⟨s', hrun, -, -⟩ := hmirrors (.fresh x) rfl
  rw [hrun]
  rfl

/-- A deletion, too. -/
theorem recorded_checkDelete (r : Requester) (old : FolderTree) (x : ω) :
    (a.recorded.checkDelete r old (.fresh x)).1 = (a.checkDelete r old x).1 := by
  have hmirrors : (a.recorded.checkDelete r old).Mirrors (a.checkDelete r old) := by
    unfold checkDelete
    by_cases htrust : a.trusts r.username = true
    · have htrust' : a.recorded.trusts r.username = true := htrust
      rw [if_pos htrust, if_pos htrust']
      exact Action.mirrors_pure ()
    · have htrust' : ¬a.recorded.trusts r.username = true := htrust
      rw [if_neg htrust, if_neg htrust']
      refine (Action.mirrors_ofExcept _).bind fun desired => ?_
      by_cases hempty : desired.isEmpty = true
      · rw [if_pos hempty, if_pos hempty]
        exact Action.mirrors_pure ()
      · rw [if_neg hempty, if_neg hempty]
        exact mirrors_actAs_bind a r fun t => mirrors_tryDeletions t desired.entries
  obtain ⟨s', hrun, -, -⟩ := hmirrors (.fresh x) rfl
  rw [hrun]
  rfl

end Authority

end FolderGrants
