import FolderGrants.Proofs.Convergence
import FolderGrants.Proofs.SameChanges
import FolderGrants.Review.Authority

/-!
# Lists of changes are well formed

A change says in its namespace and in the name of its binding where it is made, and it
carries bindings that say the same once more.  These come from different places, the
key of a map here and the metadata of an object there, and those who make changes or
try them out rely on their agreement.  They agree because every binding stands at its
own key, on both sides of the comparison.

* `Change.Fits` — a change carries what its kind needs, from its own key on either side;
* `DesiredSet.WellFormed` — every change fits, no key has more changes than it needs, and
  the changes come in order;
* `DesiredSet.changesFrom_wellFormed` — every comparison gives such a list;
* `Action.FaultsIn` — what is known of all faults that an action may end in, with one
  law per combinator;
* `Change.faultsIn_applyAll`, `Authority.faultsIn_tryAll` — such changes are made and
  tried out without faults of their own.
-/

namespace FolderGrants

namespace Change

/-- A change carries what its kind needs and nothing else.  No update asks for another
role. -/
inductive Complete : Change → Prop
  | creation {ns template : String} {b : Binding} : Complete ⟨.create, ns, template, none, some b⟩
  | renewal {ns template : String} {existing desired : Binding}
      (hrole : existing.roleRef = desired.roleRef) :
      Complete ⟨.update, ns, template, some existing, some desired⟩
  | removal {ns template : String} {b : Binding} : Complete ⟨.delete, ns, template, some b, none⟩

/-- A change is complete, and each binding that it carries is the one at its own key. -/
structure Fits (desired : DesiredSet) (baseline : Baseline) (c : Change) : Prop where
  complete : c.Complete
  existing : ∀ b, c.existing = some b →
    b.key = c.key ∧ ∃ held, baseline.get? c.key = some held ∧ held.binding = b
  desired : ∀ b, c.desired = some b →
    b.key = c.key ∧ ∃ g, desired.get? c.key = some g ∧ g.binding = b

/-- One change comes before another: at a smaller key, or as the removal before the
creation at the same key. -/
def Precedes (c c' : Change) : Prop :=
  compare c.key c'.key = .lt ∨ c.key = c'.key ∧ c.kind = .delete ∧ c'.kind = .create

variable {desired : DesiredSet} {baseline : Baseline} {c : Change}

/-- What is due fits. -/
theorem fits_of_due (h : c.Due desired baseline) (hdesired : desired.Keyed)
    (hbaseline : baseline.Keyed) : c.Fits desired baseline := by
  cases h with
  | @creation k g hg _ =>
      have hkey := hdesired k g hg
      have hat : (creation k g.template.name g.binding).key = k := (creation_about hkey).key
      refine ⟨.creation, fun b hb => (by cases hb), fun b hb => ?_⟩
      obtain rfl := Option.some.inj hb
      exact ⟨hkey.trans hat.symm, g, hat.symm ▸ hg, rfl⟩
  | @renewal k g held hg hheld hrole _ =>
      have hkey := hdesired k g hg
      have hkey' := hbaseline k held hheld
      have hat : (renewal k g.template.name held.binding g.binding).key = k :=
        (renewal_about hkey' hkey).key
      refine ⟨.renewal hrole, fun b hb => ?_, fun b hb => ?_⟩
      · obtain rfl := Option.some.inj hb
        exact ⟨hkey'.trans hat.symm, held, hat.symm ▸ hheld, rfl⟩
      · obtain rfl := Option.some.inj hb
        exact ⟨hkey.trans hat.symm, g, hat.symm ▸ hg, rfl⟩
  | @removal k held hheld _ =>
      have hkey := hbaseline k held hheld
      have hat : (removal k held).key = k := (removal_about hkey).key
      refine ⟨.removal, fun b hb => ?_, fun b hb => (by cases hb)⟩
      obtain rfl := Option.some.inj hb
      exact ⟨hkey.trans hat.symm, held, hat.symm ▸ hheld, rfl⟩

end Change

namespace DesiredSet

/-- Both sides have a binding at `k`, with different roles. -/
def Recasts (desired : DesiredSet) (baseline : Baseline) (k : BindingKey) : Prop :=
  ∃ g held, desired.get? k = some g ∧ baseline.get? k = some held ∧
    held.binding.roleRef ≠ g.binding.roleRef

/-- What a list of changes holds for one key, all in one place: a removal and a creation
if the role differs, otherwise one change or none. -/
structure Segment (desired : DesiredSet) (baseline : Baseline) (k : BindingKey)
    (here : List Change) : Prop where
  key : ∀ c ∈ here, c.key = k
  changes :
    desired.Recasts baseline k ∧
        (∃ c c', here = [c, c'] ∧ c.kind = .delete ∧ c'.kind = .create) ∨
      ¬desired.Recasts baseline k ∧ here.length ≤ 1

/-- A list of changes is well formed. -/
structure WellFormed (desired : DesiredSet) (baseline : Baseline) (changes : List Change) :
    Prop where
  fits : ∀ c ∈ changes, c.Fits desired baseline
  /-- The changes at one key stand together. -/
  segments : ∀ k, ∃ before here after, changes = before ++ (here ++ after) ∧
    (∀ c ∈ before ++ after, c.key ≠ k) ∧ desired.Segment baseline k here
  /-- The required keys come first. -/
  order : ∃ required dropped, changes = required ++ dropped ∧
    (∀ c ∈ required, desired.contains c.key = true) ∧ required.Pairwise Change.Precedes ∧
    (∀ c ∈ dropped, c.kind = .delete ∧ desired.get? c.key = none ∧
      baseline.contains c.key = true) ∧
    dropped.Pairwise fun c c' => compare c.key c'.key = .lt

variable {desired : DesiredSet} {baseline : Baseline} {k : BindingKey} {g : Grant}

/-- What a required key calls for is its segment. -/
theorem segment_changesAt (hdesired : desired.Keyed) (hbaseline : baseline.Keyed)
    (hg : desired.get? k = some g) :
    desired.Segment baseline k (changesAt k g (baseline.get? k)) := by
  have hcalls := changesAt_callsFor k g (baseline.get? k)
  refine ⟨fun c hc => (hcalls.about (hbaseline k) (hdesired k g hg) hc).key, ?_⟩
  have hrecasts : desired.Recasts baseline k ↔
      ∃ held, baseline.get? k = some held ∧ held.binding.roleRef ≠ g.binding.roleRef := by
    simp [Recasts, hg]
  rw [hrecasts]
  cases hheld : baseline.get? k with
  | none => exact .inr ⟨by simp, by simp [changesAt]⟩
  | some held =>
      by_cases hrole : held.binding.roleRef ≠ g.binding.roleRef
      · rw [changesAt, if_pos hrole]
        exact .inl ⟨⟨held, rfl, hrole⟩, _, _, rfl, rfl, rfl⟩
      · rw [changesAt, if_neg hrole]
        refine .inr ⟨fun hother => ?_, ?_⟩
        · obtain ⟨held', hheld', hrole'⟩ := hother
          obtain rfl := Option.some.inj hheld'
          exact hrole hrole'
        · split <;> simp

/-- The segment of a key that is not required. -/
theorem segment_of_not_required (hnone : desired.get? k = none) {here : List Change}
    (hkey : ∀ c ∈ here, c.key = k) (hlength : here.length ≤ 1) :
    desired.Segment baseline k here := by
  refine ⟨hkey, .inr ⟨fun hrecasts => ?_, hlength⟩⟩
  obtain ⟨g, held, hg, -⟩ := hrecasts
  rw [hnone] at hg
  cases hg

/-- What the required keys call for. -/
def requiredChanges (desired : DesiredSet) (baseline : Baseline) : List Change :=
  desired.entries.flatMap fun e => changesAt e.1 e.2 (baseline.get? e.1)

/-- What is held at keys that are not required. -/
def leftovers (desired : DesiredSet) (baseline : Baseline) : Baseline :=
  baseline.filter fun k _ => !desired.contains k

/-- The removals of what is not required. -/
def droppedChanges (desired : DesiredSet) (baseline : Baseline) : List Change :=
  (desired.leftovers baseline).entries.map fun e => .removal e.1 e.2

/-- The changes are those for the wanted bindings, and then those for what is left
over. -/
theorem changesFrom_eq (desired : DesiredSet) (baseline : Baseline) :
    desired.changesFrom baseline =
      desired.requiredChanges baseline ++ desired.droppedChanges baseline := rfl

/-- What is left over stands and is not wanted at its key. -/
theorem get?_leftovers_iff {held : Held} :
    (desired.leftovers baseline).get? k = some held ↔
      baseline.get? k = some held ∧ desired.get? k = none := by
  rw [leftovers, OrderedMap.get?_filter, Option.filter_eq_some_iff, Bool.not_eq_true',
    OrderedMap.contains_eq_false_iff]

/-- A change at a required key is made at a required key. -/
theorem exists_required (hdesired : desired.Keyed) (hbaseline : baseline.Keyed) {c : Change}
    (hc : c ∈ desired.requiredChanges baseline) : ∃ g, desired.get? c.key = some g := by
  obtain ⟨e, he, hc⟩ := List.mem_flatMap.1 hc
  have hg := OrderedMap.mem_entries_iff.1 he
  exact ⟨e.2, (segment_changesAt hdesired hbaseline hg).key c hc ▸ hg⟩

/-- A leftover is removed where it is held. -/
theorem key_removal (hbaseline : baseline.Keyed) {e : BindingKey × Held}
    (he : e ∈ (desired.leftovers baseline).entries) : (Change.removal e.1 e.2).key = e.1 :=
  (Change.removal_about
    (hbaseline e.1 e.2 (get?_leftovers_iff.1 (OrderedMap.mem_entries_iff.1 he)).1)).key

/-- The removal of a leftover, and other removals around it. -/
theorem exists_dropped_segment (hbaseline : baseline.Keyed) (hnone : desired.get? k = none) :
    ∃ before here after, desired.droppedChanges baseline = before ++ (here ++ after) ∧
      (∀ c ∈ before ++ after, c.key ≠ k) ∧ desired.Segment baseline k here := by
  cases hheld : (desired.leftovers baseline).get? k with
  | none =>
      refine ⟨desired.droppedChanges baseline, [], [], (List.append_nil _).symm,
        fun c hc hat => ?_, segment_of_not_required hnone (fun c hc => by cases hc) (by simp)⟩
      rw [List.append_nil] at hc
      obtain ⟨e, he, rfl⟩ := List.mem_map.1 hc
      rw [← hat, key_removal hbaseline he, OrderedMap.mem_entries_iff.1 he] at hheld
      cases hheld
  | some held =>
      obtain ⟨pre, post, hentries, hne⟩ := OrderedMap.entries_split hheld
      let removal : BindingKey × Held → Change := fun e => .removal e.1 e.2
      have hkey : ∀ e ∈ pre ++ (k, held) :: post, (removal e).key = e.1 :=
        hentries ▸ fun e he => key_removal hbaseline he
      refine ⟨pre.map removal, [removal (k, held)], post.map removal, ?_, fun c hc => ?_,
        segment_of_not_required hnone (fun c hc => ?_) (by simp)⟩
      · rw [droppedChanges, hentries, List.map_append, List.map_cons]
        rfl
      · rw [← List.map_append] at hc
        obtain ⟨e, he, rfl⟩ := List.mem_map.1 hc
        rw [hkey e (List.Sublist.subset (by simp) he)]
        exact hne e he
      · obtain rfl := List.mem_singleton.1 hc
        exact hkey (k, held) (List.mem_append_right _ List.mem_cons_self)

/-- The changes at one key stand together. -/
theorem exists_segment (hdesired : desired.Keyed) (hbaseline : baseline.Keyed) (k : BindingKey) :
    ∃ before here after, desired.changesFrom baseline = before ++ (here ++ after) ∧
      (∀ c ∈ before ++ after, c.key ≠ k) ∧ desired.Segment baseline k here := by
  cases hk : desired.get? k with
  | some g =>
      obtain ⟨before, after, hsplit, hbefore, hafter⟩ :=
        changesFrom_split hdesired hbaseline hk
      refine ⟨before, _, after, hsplit, fun c hc => ?_, segment_changesAt hdesired hbaseline hk⟩
      obtain ⟨k', habout, hne⟩ := (List.mem_append.1 hc).elim (hbefore c) (hafter c)
      exact habout.key ▸ hne.symm
  | none =>
      obtain ⟨before, here, after, hdropped, hother, hhere⟩ :=
        exists_dropped_segment hbaseline hk
      refine ⟨desired.requiredChanges baseline ++ before, here, after, ?_, fun c hc => ?_, hhere⟩
      · rw [changesFrom_eq, hdropped, List.append_assoc]
      · rw [List.append_assoc] at hc
        rcases List.mem_append.1 hc with hrequired | hdropped
        · obtain ⟨g, hg⟩ := exists_required hdesired hbaseline hrequired
          intro hkey
          rw [hkey, hk] at hg
          cases hg
        · exact hother c hdropped

/-- The changes at one required key come in order. -/
theorem changesAt_ordered (hdesired : desired.Keyed) (hbaseline : baseline.Keyed)
    (hg : desired.get? k = some g) :
    (changesAt k g (baseline.get? k)).Pairwise Change.Precedes := by
  have hsegment := segment_changesAt hdesired hbaseline hg
  rcases hsegment.changes with ⟨-, c, c', hhere, hremoval, hcreation⟩ | ⟨-, hlength⟩
  · have hkey := hsegment.key c (by simp [hhere])
    have hkey' := hsegment.key c' (by simp [hhere])
    rw [hhere]
    exact List.pairwise_pair.2 (.inr ⟨hkey.trans hkey'.symm, hremoval, hcreation⟩)
  · cases hhere : changesAt k g (baseline.get? k) with
    | nil => exact .nil
    | cons c rest =>
        rw [hhere] at hlength
        obtain rfl : rest = [] := by simpa using hlength
        exact List.pairwise_singleton _ _

/-- The changes at required keys come in order. -/
theorem requiredChanges_ordered (hdesired : desired.Keyed) (hbaseline : baseline.Keyed) :
    (desired.requiredChanges baseline).Pairwise Change.Precedes := by
  refine List.pairwise_flatMap.2 ⟨fun e he => ?_, desired.ascending.imp_of_mem ?_⟩
  · exact changesAt_ordered hdesired hbaseline (OrderedMap.mem_entries_iff.1 he)
  · intro e e' he he' hlt c hc c' hc'
    have hkey := (segment_changesAt hdesired hbaseline (OrderedMap.mem_entries_iff.1 he)).key c hc
    have hkey' :=
      (segment_changesAt hdesired hbaseline (OrderedMap.mem_entries_iff.1 he')).key c' hc'
    exact .inl (by rw [hkey, hkey']; exact hlt)

/-- So do the removals of leftovers. -/
theorem droppedChanges_ordered (hbaseline : baseline.Keyed) :
    (desired.droppedChanges baseline).Pairwise fun c c' => compare c.key c'.key = .lt := by
  refine List.pairwise_map.2 ((desired.leftovers baseline).ascending.imp_of_mem ?_)
  intro e e' he he' hlt
  rw [key_removal hbaseline he, key_removal hbaseline he']
  exact hlt

/-- **Every comparison gives a well-formed list**, if both sides hold their bindings at
their own keys. -/
theorem changesFrom_wellFormed (hdesired : desired.Keyed) (hbaseline : baseline.Keyed) :
    desired.WellFormed baseline (desired.changesFrom baseline) where
  fits c hc := Change.fits_of_due (mem_changesFrom_iff_due.1 hc) hdesired hbaseline
  segments := exists_segment hdesired hbaseline
  order := by
    refine ⟨_, _, changesFrom_eq desired baseline, fun c hc => ?_,
      requiredChanges_ordered hdesired hbaseline, fun c hc => ?_,
      droppedChanges_ordered hbaseline⟩
    · exact OrderedMap.contains_iff.2 (exists_required hdesired hbaseline hc)
    · obtain ⟨e, he, rfl⟩ := List.mem_map.1 hc
      obtain ⟨hheld, hnone⟩ := get?_leftovers_iff.1 (OrderedMap.mem_entries_iff.1 he)
      rw [key_removal hbaseline he]
      exact ⟨rfl, hnone, OrderedMap.contains_iff.2 ⟨e.2, hheld⟩⟩

end DesiredSet

namespace Action

variable {σ α β : Type} {P Q : Fault → Prop}

/-- Every fault that `a` may end in satisfies `P`. -/
def FaultsIn (P : Fault → Prop) (a : Action σ α) : Prop :=
  ∀ s f s', a s = (.error f, s') → P f

theorem faultsIn_pure (x : α) : (pure x : Action σ α).FaultsIn P := by
  intro s f s' h
  cases congrArg Prod.fst h

theorem faultsIn_throw {f : Fault} (h : P f) : (throw f : Action σ α).FaultsIn P := by
  intro s e s' hrun
  obtain rfl := Except.error.inj (congrArg Prod.fst hrun)
  exact h

/-- A sequence meets the faults of its parts. -/
theorem FaultsIn.bind {a : Action σ α} {f : α → Action σ β} (ha : a.FaultsIn P)
    (hf : ∀ x, (f x).FaultsIn P) : (a >>= f).FaultsIn P := by
  intro s e s' h
  rcases bind_eq_error_iff.1 h with hfirst | ⟨x, mid, -, hthen⟩
  · exact ha s e s' hfirst
  · exact hf x mid e s' hthen

/-- To forgive some faults brings no others. -/
theorem FaultsIn.forgiving {a : Action σ Unit} (h : a.FaultsIn P) (p : Fault → Bool) :
    (a.forgiving p).FaultsIn P :=
  fun s f s' hrun => h s f s' (forgiving_eq_error_iff.1 hrun).1

/-- Two attempts meet the faults of either. -/
theorem FaultsIn.orTry {a b : Action σ Unit} (ha : a.FaultsIn P) (hb : b.FaultsIn P)
    (p : Fault → Bool) : (a.orTry p b).FaultsIn P := by
  intro s f s' h
  rcases orTry_eq_error_iff.1 h with ⟨hfirst, -⟩ | ⟨_, mid, -, -, hthen⟩
  · exact ha s f s' hfirst
  · exact hb mid f s' hthen

/-- Faults that are reported in another way are those that are made of the ones met. -/
theorem FaultsIn.mapFault {a : Action σ α} (h : a.FaultsIn P) {f : Fault → Fault}
    (hf : ∀ e, P e → Q (f e)) : (a.mapFault f).FaultsIn Q := by
  intro s e s' hrun
  obtain ⟨e', ha, rfl⟩ := mapFault_eq_error_iff.1 hrun
  exact hf e' (h s e' s' ha)

theorem FaultsIn.imp {a : Action σ α} (h : a.FaultsIn P) (hPQ : ∀ f, P f → Q f) :
    a.FaultsIn Q := fun s f s' hrun => hPQ f (h s f s' hrun)

end Action

/-- Every fault that a call by which a change is made may answer satisfies `P`. -/
structure Api.FaultsIn {σ : Type} (P : Fault → Prop) (api : Api σ) : Prop where
  namespaceExists : ∀ ns, (api.namespaceExists ns).FaultsIn P
  create : ∀ b, (api.create b).FaultsIn P
  replace : ∀ b, (api.replace b).FaultsIn P
  delete : ∀ key, (api.delete key).FaultsIn P

/-- Every fault that a trial may answer satisfies `P`. -/
structure Trials.FaultsIn {σ : Type} (P : Fault → Prop) (trials : Trials σ) : Prop where
  create : ∀ b, (trials.create b).FaultsIn P
  replace : ∀ b, (trials.replace b).FaultsIn P
  delete : ∀ key, (trials.delete key).FaultsIn P

namespace Change

variable {σ : Type} {P : Fault → Prop} {api : Api σ}

/-- A complete change fails only where a call does. -/
theorem Complete.faultsIn_apply {c : Change} (h : c.Complete) (hapi : api.FaultsIn P) :
    (c.apply api).FaultsIn P := by
  cases h with
  | creation =>
      refine (hapi.namespaceExists _).bind fun found => ?_
      cases found with
      | false => exact Action.faultsIn_pure _
      | true => exact (hapi.create _).bind fun _ => Action.faultsIn_pure _
  | renewal => exact (hapi.replace _).bind fun _ => Action.faultsIn_pure _
  | removal => exact ((hapi.delete _).forgiving _).bind fun _ => Action.faultsIn_pure _

/-- Complete changes are made up to the first call that fails. -/
theorem faultsIn_applyAll {changes : List Change} (h : ∀ c ∈ changes, c.Complete)
    (hapi : api.FaultsIn P) (summary : Summary) : (applyAll api changes summary).FaultsIn P := by
  induction changes generalizing summary with
  | nil => exact Action.faultsIn_pure summary
  | cons c rest ih =>
      refine ((h c List.mem_cons_self).faultsIn_apply hapi).bind fun o => ?_
      exact ih (fun c' hc' => h c' (List.mem_cons_of_mem _ hc')) (summary.count o)

end Change

namespace Authority

variable {σ : Type} {P : Fault → Prop} {trials : Trials σ}

/-- To try out a creation meets the faults that trials meet. -/
theorem faultsIn_tryCreate (a : Authority σ) (htrials : trials.FaultsIn P) (tree template : String)
    (b : Binding) : (a.tryCreate trials tree template b).FaultsIn P :=
  fun s f s' h => htrials.create (b.forTrial tree template (a.clock s).1) (a.clock s).2 f s' h

/-- The trial of a complete change is refused only where a call is. -/
theorem faultsIn_tryChange (a : Authority σ) (htrials : trials.FaultsIn P) (tree : String)
    {c : Change} (h : c.Complete) : (a.tryChange trials tree c).FaultsIn P := by
  cases h with
  | creation => exact a.faultsIn_tryCreate htrials _ _ _
  | renewal => exact (htrials.replace _).orTry (a.faultsIn_tryCreate htrials _ _ _) _
  | removal => exact (htrials.delete _).forgiving _

/-- Complete changes are refused for a call that is. -/
theorem faultsIn_tryAll (a : Authority σ) (htrials : trials.FaultsIn P) (tree : String)
    {changes : List Change} (h : ∀ c ∈ changes, c.Complete) :
    (a.tryAll trials tree changes).FaultsIn fun f =>
      ∃ c ∈ changes, ∃ why, P why ∧ f = .escalationOf c.kind c.key c.template why := by
  induction changes with
  | nil => exact Action.faultsIn_pure ()
  | cons c rest ih =>
      have hhead := a.faultsIn_tryChange htrials tree (h c List.mem_cons_self)
      refine (hhead.mapFault fun why hwhy => ⟨c, List.mem_cons_self, why, hwhy, rfl⟩).bind
        fun _ => ?_
      refine (ih fun c' hc' => h c' (List.mem_cons_of_mem _ hc')).imp fun f hf => ?_
      obtain ⟨c', hc', hwhy⟩ := hf
      exact ⟨c', List.mem_cons_of_mem _ hc', hwhy⟩

end Authority

namespace FolderTree

/-- **Every list of changes is well formed, and no change in it is ever incomplete.**
This holds of a pass, whatever builds the bindings and whatever bindings are listed, as
long as their keys differ, and of a review of any two versions.  Whatever is known of
the faults that the server answers, to the calls by which changes are made or to trials,
is known of the fault that such a list ends in when it is made, and of what the refusal
reports when it is tried out; so neither ever ends because a change lacks a binding. -/
theorem changes_wellFormed :
    (∀ (t : FolderTree) (b : Builder) (desired : DesiredSet) (live : List Binding),
      t.desired b = .ok desired → (live.map Binding.key).Nodup →
        (∀ k held, (Baseline.ofBindings live).get? k = some held ↔
          held.binding ∈ live ∧ held.binding.key = k ∧
            held.template = held.binding.template?.getD "") ∧
        desired.WellFormed (.ofBindings live) (desired.changesFrom (.ofBindings live))) ∧
    (∀ (old new : FolderTree) (changes : List Change),
      (changesFrom (some old) new = .ok changes →
        ∃ before after, old.unownedDesired = .ok before ∧ new.unownedDesired = .ok after ∧
          after.WellFormed before.baseline changes) ∧
      (changesFrom none new = .ok changes →
        ∃ after, new.unownedDesired = .ok after ∧ after.WellFormed .empty changes)) ∧
    ∀ (desired : DesiredSet) (baseline : Baseline) (changes : List Change),
      desired.WellFormed baseline changes →
        ∀ (σ : Type) (P : Fault → Prop),
          (∀ (api : Api σ) (summary : Summary), api.FaultsIn P →
            (Change.applyAll api changes summary).FaultsIn P) ∧
          ∀ (a : Authority σ) (trials : Trials σ) (tree : String), trials.FaultsIn P →
            (a.tryAll trials tree changes).FaultsIn fun f =>
              ∃ c ∈ changes, ∃ why, P why ∧ f = .escalationOf c.kind c.key c.template why := by
  refine ⟨fun t b desired live hdesired hnodup => ⟨fun k held => ?_, ?_⟩,
    fun old new changes => ⟨fun h => ?_, fun h => ?_⟩, fun desired baseline changes h σ P => ?_⟩
  · exact Baseline.get?_ofBindings_iff hnodup
  · exact DesiredSet.changesFrom_wellFormed (desired_keyed hdesired)
      (Baseline.ofBindings_keyed live)
  · obtain ⟨before, after, hbefore, hafter, rfl⟩ := changesFrom_some_eq_ok_iff.1 h
    exact ⟨before, after, hbefore, hafter,
      DesiredSet.changesFrom_wellFormed (desired_keyed hafter) (desired_keyed hbefore).baseline⟩
  · obtain ⟨after, hafter, rfl⟩ := changesFrom_none_eq_ok_iff.1 h
    exact ⟨after, hafter,
      DesiredSet.changesFrom_wellFormed (desired_keyed hafter) Baseline.empty_keyed⟩
  · have hcomplete : ∀ c ∈ changes, c.Complete := fun c hc => (h.fits c hc).complete
    exact ⟨fun api summary hapi => Change.faultsIn_applyAll hcomplete hapi summary,
      fun a trials tree htrials => a.faultsIn_tryAll htrials tree hcomplete⟩

/-- What a server answers that refuses everything. -/
def handsOff : Fault := .refused ⟨"Failure", "hands off", "Forbidden", 403⟩

/-- A server that knows every namespace and refuses everything else. -/
def locked : Api Unit where
  list _ := throw handsOff
  namespaceExists _ := return true
  create _ := throw handsOff
  replace _ := throw handsOff
  delete _ := throw handsOff
  patchStatus _ _ := throw handsOff

/-- The trials that such a server refuses. -/
def lockedTrials : Trials Unit := ⟨locked.create, locked.replace, locked.delete⟩

/-- The locked server has only one fault. -/
theorem faultsIn_locked : locked.FaultsIn (· = handsOff) where
  namespaceExists _ := Action.faultsIn_pure true
  create _ := Action.faultsIn_throw rfl
  replace _ := Action.faultsIn_throw rfl
  delete _ := Action.faultsIn_throw rfl

theorem changes_wellFormed_platform :
    ∃ before owned changes, platform.unownedDesired = .ok before ∧
      (before.bindings.map Binding.key).Nodup ∧
      revisedPlatform.desired (.ownedBy revisedPlatform) = .ok owned ∧
      owned.WellFormed (.ofBindings before.bindings)
        (owned.changesFrom (.ofBindings before.bindings)) ∧
      changesFrom (some platform) revisedPlatform = .ok changes ∧
      changes.map (fun c => (c.kind, c.key.ns)) =
        [(.update, "org-ns"), (.create, "org-ns"), (.delete, "sandbox-ns"),
          (.create, "sandbox-ns"), (.delete, "api-ns"), (.delete, "org-ns")] ∧
      (Change.applyAll locked changes {} ()).1 = .error handsOff ∧
      (Change.applyAll locked changes {}).FaultsIn (· = handsOff) ∧
      ∀ a : Authority Unit, (a.tryAll lockedTrials "platform" changes).FaultsIn fun f =>
        ∃ c ∈ changes, ∃ why, why = handsOff ∧ f = .escalationOf c.kind c.key c.template why := by
  obtain ⟨hpass, hreview, hfaults⟩ := changes_wellFormed
  obtain ⟨before, after, -, -, hwell⟩ := (hreview platform revisedPlatform _).1 rfl
  have hlocked := hfaults after before.baseline _ hwell Unit (· = handsOff)
  have hlive := hpass revisedPlatform (.ownedBy revisedPlatform)
  refine ⟨_, _, _, rfl, by decide, rfl, (hlive _ _ rfl (by decide)).2, rfl, by decide, rfl,
    hlocked.1 locked {} faultsIn_locked, fun a => ?_⟩
  exact hlocked.2 a lockedTrials "platform"
    ⟨faultsIn_locked.create, faultsIn_locked.replace, faultsIn_locked.delete⟩

end FolderTree

end FolderGrants
