import FolderGrants.Proofs.DriftRepair
import FolderGrants.Proofs.Resumption
import FolderGrants.Proofs.StatusReport

/-!
# Passes come to rest

A pass that writes something is noticed, and brings about the next pass.  This ends,
because what a pass writes satisfies the test that made it write.  After a pass that
succeeds, what carries the label serves, and what is required and missing has no
namespace; the next pass finds nothing to change but such creations, which it steps
over.  As for the status, a condition that was set is found set, and to set it again
changes nothing, not even its time.

* `FolderTree.onlySkips_of_settled` — what is left to do after a pass that succeeds;
* `Scripted.AtRest` — a cluster that has only been looked at, and
  `FolderTree.exists_syncBindings_at_rest` for a pass over it;
* `FolderTree.recordCondition_again` — what was recorded is not recorded again;
* `FolderTree.reconcile_quiescent` — passes come to rest.
-/

namespace FolderGrants

/-- Whether a call only looks at what there is. -/
def Call.isLook : Call → Bool
  | .list _ => true
  | .namespaceExists _ => true
  | _ => false

/-- Nothing fails in the cluster, and so far it has only been looked at. -/
structure Scripted.AtRest (K : Cluster) (s : Scripted Cluster) : Prop where
  world : s.world = K
  rules : s.rules = []
  looks : ∀ r ∈ s.log, r.call.isLook = true

namespace Scripted

variable {α : Type} {K : Cluster} {s : Scripted Cluster}

theorem atRest_fresh (K : Cluster) : (Scripted.fresh K).AtRest K :=
  ⟨rfl, rfl, fun _ hr => by cases hr⟩

/-- To look at a cluster leaves it at rest. -/
theorem AtRest.exists_perform {c : Call} {a : Action Cluster α} {x : α} (hs : s.AtRest K)
    (hc : c.isLook = true) (ha : a K = (.ok x, K)) :
    ∃ s', perform c a s = (.ok x, s') ∧ s'.AtRest K := by
  obtain ⟨s', hrun, hworld, hrules⟩ := Action.mirrors_perform c a s hs.rules
  rw [hs.world, ha] at hrun hworld
  refine ⟨s', hrun, hworld, hrules, fun r hr => ?_⟩
  rw [log_of_perform_eq_ok hrun] at hr
  rcases List.mem_cons.1 hr with rfl | hold
  · exact hc
  · exact hs.looks r hold

end Scripted

namespace Change

variable {σ : Type} {api : Api σ} {I : σ → Prop}

/-- Changes that all succeed and keep `I` get through. -/
theorem exists_applyAll {changes : List Change}
    (h : ∀ c ∈ changes, ∀ s, I s → ∃ o s', c.apply api s = (.ok o, s') ∧ I s')
    (summary : Summary) {s : σ} (hs : I s) :
    ∃ total s', applyAll api changes summary s = (.ok total, s') ∧ I s' := by
  induction changes generalizing summary s with
  | nil => exact ⟨summary, s, rfl, hs⟩
  | cons c rest ih =>
      obtain ⟨o, mid, hhead, hmid⟩ := h c List.mem_cons_self s hs
      obtain ⟨total, s', htail, hend⟩ :=
        ih (fun c' hc' => h c' (List.mem_cons_of_mem _ hc')) (summary.count o) hmid
      exact ⟨total, s', Action.bind_eq_ok_iff.2 ⟨o, mid, hhead, htail⟩, hend⟩

/-- A creation whose namespace is missing only looks for it. -/
theorem exists_creation_at_rest {K : Cluster} {k : BindingKey} {template : String} {b : Binding}
    {s : Scripted Cluster} (hmissing : K.hasNamespace k.ns = false) (hs : s.AtRest K) :
    ∃ s', (creation k template b).apply (Scripted.api Cluster.api) s = (.ok .skipped, s') ∧
      s'.AtRest K := by
  have hanswer : Cluster.api.namespaceExists k.ns K = (.ok false, K) := by
    rw [← hmissing]
    rfl
  obtain ⟨s', hask, hs'⟩ := hs.exists_perform (c := .namespaceExists k.ns) rfl hanswer
  exact ⟨s', Action.bind_eq_ok_iff.2 ⟨false, s', hask, rfl⟩, hs'⟩

end Change

namespace Condition

/-- Two successes say the same, whenever they are. -/
theorem ofSuccess_sameState (now later : Instant) :
    (ofSuccess now).sameState (ofSuccess later) = true :=
  sameState_iff.2 ⟨rfl, rfl, rfl, rfl⟩

/-- Of a fault, the message is all that is told. -/
theorem ofFault_sameState (now later : Instant) {f f' : Fault} (h : f.message = f'.message) :
    (ofFault now f).sameState (ofFault later f') = true :=
  sameState_iff.2 ⟨rfl, rfl, rfl, h⟩

end Condition

namespace FolderTree

section Changes

variable {t : FolderTree} {desired : DesiredSet} {K K' : Cluster}

/-- Nothing is left to do but to create what has no namespace. -/
def OnlySkips (t : FolderTree) (desired : DesiredSet) (K : Cluster) : Prop :=
  ∀ c ∈ desired.changesFrom (.ofBindings (K.bindingsOf t.name)),
    ∃ k template b, c = .creation k template b ∧ K.hasNamespace k.ns = false

/-- After the changes of a pass, only creations are left to do whose namespace is
missing. -/
theorem onlySkips_of_settled (hdesired : t.ownedDesired = .ok desired) (hkeyed : K.Keyed)
    (hchain : Chain Change.Settled (desired.changesFrom (.ofBindings (K.bindingsOf t.name)))
      K K') : t.OnlySkips desired K' := by
  have hkeyed' : K'.Keyed := (Change.done_of_settled hchain).keeps (P := Cluster.Keyed)
    (fun _ _ _ _ => Change.keyed_of_done) hkeyed
  have horder := inOrder_of_settled hdesired hkeyed hchain
  intro c hc
  cases DesiredSet.mem_changesFrom_iff_due.1 hc with
  | @creation k g hg hheld =>
      refine ⟨k, g.template.name, g.binding, rfl, Bool.eq_false_iff.2 fun hns => ?_⟩
      obtain ⟨b, hb, hserves⟩ := served_of_settled hdesired hkeyed hchain hg hns
      obtain ⟨-, htree, -⟩ := tracking_of_serves hdesired hg hserves
      have hlisted : (Baseline.ofBindings (K'.bindingsOf t.name)).get? k =
          some ⟨b, b.template?.getD ""⟩ :=
        (Baseline.get?_ofListed_iff hkeyed').2 ⟨hb, htree, rfl⟩
      exact hheld _ hlisted hserves.roleRef
  | @renewal k g held hg hheld _ hrefresh =>
      obtain ⟨hb, htree, -⟩ := (Baseline.get?_ofListed_iff hkeyed').1 hheld
      obtain ⟨g', hg', hserves⟩ := horder k held.binding hb htree
      obtain rfl := Option.some.inj (hg.symm.trans hg')
      rw [Binding.needsRefresh_eq_false_iff.2 hserves] at hrefresh
      cases hrefresh
  | @removal k held hheld hrole =>
      obtain ⟨hb, htree, -⟩ := (Baseline.get?_ofListed_iff hkeyed').1 hheld
      obtain ⟨g, hg, hserves⟩ := horder k held.binding hb htree
      exact absurd hserves.roleRef (hrole g hg)

/-- What is left to do depends on the bindings and the namespaces alone. -/
theorem OnlySkips.of_eq (h : t.OnlySkips desired K) (hbindings : K'.bindings = K.bindings)
    (hns : K'.namespaces = K.namespaces) : t.OnlySkips desired K' := by
  intro c hc
  rw [Cluster.bindingsOf_of_eq hbindings] at hc
  obtain ⟨k, template, b, rfl, hmissing⟩ := h c hc
  exact ⟨k, template, b, rfl, (Cluster.hasNamespace_of_eq hns k.ns).trans hmissing⟩

/-- A pass that has nothing else to do leaves the cluster at rest. -/
theorem exists_syncBindings_at_rest (hdesired : t.ownedDesired = .ok desired)
    (hskips : t.OnlySkips desired K) :
    ∃ summary s', t.syncBindings (Scripted.api Cluster.api) (.fresh K) = (.ok summary, s') ∧
      s'.AtRest K := by
  obtain ⟨mid, hlist, hmid⟩ := (Scripted.atRest_fresh K).exists_perform
    (c := .list t.name) (a := Cluster.api.list t.name) (x := K.bindingsOf t.name) rfl rfl
  have hstep : ∀ c ∈ desired.changesFrom (.ofBindings (K.bindingsOf t.name)), ∀ s,
      Scripted.AtRest K s → ∃ o s', c.apply (Scripted.api Cluster.api) s = (.ok o, s') ∧
        s'.AtRest K := by
    intro c hc s hs
    obtain ⟨k, template, b, rfl, hmissing⟩ := hskips c hc
    exact ⟨.skipped, Change.exists_creation_at_rest hmissing hs⟩
  obtain ⟨summary, s', happly, hs'⟩ := Change.exists_applyAll hstep {} hmid
  refine ⟨summary, s', ?_, hs'⟩
  rw [syncBindings, hdesired]
  exact Action.bind_eq_ok_iff.2 ⟨_, _, rfl, Action.bind_eq_ok_iff.2 ⟨_, _, hlist, happly⟩⟩

end Changes

/-- What was recorded is not recorded again, at whatever time. -/
theorem recordCondition_again {σ : Type} (api : Api σ) (t : FolderTree) {c c' : Condition}
    {replaced : String} (hne : c.type ≠ replaced) (hsame : c.sameState c' = true) (s : σ) :
    (t.recorded c replaced).recordCondition api c' replaced s = (.ok (), s) := by
  have hstays : c.type ∉ [replaced] := fun hmem => hne (List.mem_singleton.1 hmem)
  have hstatus : (t.recorded c replaced).statusWith c' replaced = t.statusWith c replaced :=
    congrArg (Status.mk · _) (Condition.set_set t.currentStatus.conditions hstays hsame)
  have hsays : (t.recorded c replaced).status =
      some ((t.recorded c replaced).statusWith c' replaced) := by
    rw [hstatus]
    rfl
  unfold recordCondition
  rw [if_pos hsays]
  rfl

section Passes

variable {ω : Type} {api : Api ω} {cluster : ω → Cluster} {t : FolderTree} {desired : DesiredSet}
  {K : Cluster}

/-- After a pass whose changes succeed, only creations are left to do whose namespace is
missing. -/
theorem onlySkips_of_syncBindings (hapi : api.MayFail cluster)
    (hhonest : api.DeletesHonestly cluster) {w : ω} (hkeyed : (cluster w).Keyed)
    {summary : Summary} {mid : Scripted ω}
    (hsync : t.syncBindings (Scripted.api api) (.fresh w) = (.ok summary, mid)) :
    ∃ desired, t.ownedDesired = .ok desired ∧ t.OnlySkips desired (cluster mid.world) := by
  obtain ⟨s, hrun, hworld, -⟩ := mirrors_syncBindings api t (.fresh w) rfl
  obtain ⟨hok, rfl⟩ := Action.outcome_eq_iff.1 (hrun.symm.trans hsync)
  have hplain : t.syncBindings api w = (.ok summary, s.world) := Prod.ext hok hworld.symm
  obtain ⟨desired, hdesired, hchain⟩ := settled_of_truthful hapi.truthful hhonest hplain
  exact ⟨desired, hdesired, onlySkips_of_settled hdesired hkeyed hchain⟩

/-- An undisturbed pass over a tree that is ready, with nothing left to do, only
looks. -/
theorem reconcile_at_rest (hlive : t.metadata.deletionTimestamp = none)
    (hdesired : t.ownedDesired = .ok desired) (hskips : t.OnlySkips desired K)
    (now later : Instant) :
    ∃ s', (t.recorded (.ofSuccess now) Condition.processingFailed).reconcile
        (Scripted.api Cluster.api) later (.fresh K) = (.ok .awaitChange, s') ∧
      s'.AtRest K := by
  let t' := t.recorded (.ofSuccess now) Condition.processingFailed
  have hlive' : t'.metadata.deletionTimestamp = none := hlive
  obtain ⟨summary, s', hsync, hs'⟩ := exists_syncBindings_at_rest (t := t') hdesired hskips
  have hrecord : t'.recordCondition (Scripted.api Cluster.api) (.ofSuccess later)
      Condition.processingFailed s' = (.ok (), s') :=
    recordCondition_again _ t Condition.ready_ne_processingFailed
      (Condition.ofSuccess_sameState now later) s'
  exact ⟨s', reconcile_of_ok hlive' later hsync hrecord, hs'⟩

/-- A pass that fails as the one before it did sends no status. -/
theorem noStatusSent_of_same_fault (hlive : t.metadata.deletionTimestamp = none)
    (now later : Instant) {f f' : Fault} (hmessage : f'.message = f.message) {w : ω}
    (hsync : ((t.recorded (.ofFault now f) Condition.ready).syncBindings (Scripted.api api)
      (.fresh w)).1 = .error f') :
    ((t.recorded (.ofFault now f) Condition.ready).reconcile (Scripted.api api) later
      (.fresh w)).2.NoStatusSent := by
  let t' := t.recorded (.ofFault now f) Condition.ready
  have hlive' : t'.metadata.deletionTimestamp = none := hlive
  rcases hrun : t'.syncBindings (Scripted.api api) (.fresh w) with ⟨y, s'⟩
  have hfails : y = .error f' := (congrArg Prod.fst hrun).symm.trans hsync
  subst hfails
  have hrecord : t'.recordCondition (Scripted.api api) (.ofFault later f') Condition.ready s' =
      (.ok (), s') :=
    recordCondition_again _ t Condition.ready_ne_processingFailed.symm
      (Condition.ofFault_sameState now later hmessage.symm) s'
  show (t'.reconcile (Scripted.api api) later (.fresh w)).2.NoStatusSent
  rw [reconcile_of_error hlive' later hrun hrecord]
  exact (keeps_noStatusSent_syncBindings api t').run hrun (Scripted.noStatusSent_fresh w)

/-- **Passes come to rest.**  If a pass over a stored tree succeeds, and no deletion in it
was passed over of a binding that was there, then an undisturbed pass over the tree as it
is stored after that succeeds, changes nothing and only looks.  If it fails and how it
failed could be written, where that was needed, then a pass over the tree as it is stored
after that, which fails with the same message in its changes, sends no status. -/
theorem reconcile_quiescent (hapi : api.MayFail cluster)
    (hlive : t.metadata.deletionTimestamp = none) {w : ω}
    (hstored : (cluster w).trees.get? t.name = some t) (now : Instant)
    {x : Except Fault Followup} {s' : Scripted ω}
    (hpass : t.reconcile (Scripted.api api) now (.fresh w) = (x, s')) :
    (api.DeletesHonestly cluster → (cluster w).Keyed → (∃ next, x = .ok next) →
      ∃ t', (cluster s'.world).trees.get? t.name = some t' ∧
        ∀ later, ∃ s'', t'.reconcile (Scripted.api Cluster.api) later
            (.fresh (cluster s'.world)) = (.ok .awaitChange, s'') ∧
          s''.AtRest (cluster s'.world)) ∧
    (∀ f, x = .error f → s'.StatusWritten →
      ∃ t', (cluster s'.world).trees.get? t.name = some t' ∧
        ∀ (ω' : Type) (api' : Api ω') (w' : ω') (later : Instant) (f' : Fault),
          (t'.syncBindings (Scripted.api api') (.fresh w')).1 = .error f' →
          f'.message = f.message →
          (t'.reconcile (Scripted.api api') later (.fresh w')).2.NoStatusSent) := by
  rcases hsync : t.syncBindings (Scripted.api api) (.fresh w) with ⟨outcome, mid⟩
  obtain ⟨hsilent, hmid⟩ := untold_of_syncBindings hapi.storesStatus hstored hsync
  cases outcome with
  | ok summary =>
      rcases hrecord : t.recordCondition (Scripted.api api) (.ofSuccess now)
        Condition.processingFailed mid with ⟨y, s''⟩
      rw [reconcile_of_ok hlive now hsync hrecord] at hpass
      obtain ⟨rfl, rfl⟩ := Action.outcome_eq_iff.1 hpass
      obtain ⟨hok, htold⟩ := stored_of_recordCondition hapi.storesStatus hmid hsilent hrecord
      refine ⟨fun hhonest hkeyed h => ?_, fun f hf hwritten => ?_⟩
      · obtain ⟨next, hnext⟩ := h
        cases y with
        | error f => cases hnext
        | ok u =>
            obtain ⟨desired, hdesired, hskips⟩ :=
              onlySkips_of_syncBindings hapi hhonest hkeyed hsync
            have hkept := keeps_bindings_recordCondition (t := t) hapi.scripted (cluster mid.world)
              (.ofSuccess now) Condition.processingFailed
            obtain ⟨hbindings, hns⟩ := hkept.run hrecord ⟨rfl, rfl⟩
            refine ⟨_, htold (hok.1 rfl), fun later => ?_⟩
            exact reconcile_at_rest hlive hdesired (hskips.of_eq hbindings hns) now later
      · rw [hok.2 hwritten] at hf
        cases hf
  | error f =>
      rcases hrecord : t.recordCondition (Scripted.api api) (.ofFault now f) Condition.ready mid
        with ⟨y, s''⟩
      rw [reconcile_of_error hlive now hsync hrecord] at hpass
      obtain ⟨rfl, rfl⟩ := Action.outcome_eq_iff.1 hpass
      obtain ⟨-, htold⟩ := stored_of_recordCondition hapi.storesStatus hmid hsilent hrecord
      refine ⟨fun _ _ h => ?_, fun f₀ hf hwritten => ⟨_, htold hwritten, ?_⟩⟩
      · obtain ⟨next, hnext⟩ := h
        cases hnext
      · obtain rfl := Except.error.inj hf
        exact fun ω' api' w' later f' hfails hmessage =>
          noStatusSent_of_same_fault hlive now later hmessage hfails

end Passes

/-- Bindings of the outpost that have been neglected: one lost its subjects, and one is no
longer required. -/
def neglectedBindings : List Binding :=
  [{ metadata :=
       { name := some "foldertree-outpost-edit", ns := some "a"
         labels := some (.ofList [(Binding.treeLabel, "outpost")]) }
     roleRef := .clusterRole "edit" },
   { metadata :=
       { name := some "foldertree-outpost-old", ns := some "a"
         labels := some (Binding.trackingLabels "outpost" "old") }
     roleRef := .clusterRole "view" }]

/-- The cluster that holds them, and the outpost. -/
def neglectedCluster : Cluster where
  namespaces := .ofList [("a", ())]
  bindings := .ofList (neglectedBindings.map fun b => (b.key, b))
  trees := .ofList [("outpost", outpost)]

/-- What comes of a pass over it; the call of that turn fails, if it comes to it. -/
def neglectedPass (turn : Nat) : Except Fault Followup × Scripted (Nat × Cluster) :=
  outpost.reconcile (Scripted.api (Cluster.flaky (Cluster.hiccup turn))) ⟨1, 0⟩
    (.fresh (0, neglectedCluster))

theorem reconcile_quiescent_outpost :
    ((neglectedPass 9).1 = .ok .awaitChange ∧
      ∃ t', (neglectedPass 9).2.world.2.trees.get? "outpost" = some t' ∧
        ∃ s', t'.reconcile (Scripted.api Cluster.api) ⟨2, 0⟩
            (.fresh (neglectedPass 9).2.world.2) = (.ok .awaitChange, s') ∧
          s'.AtRest (neglectedPass 9).2.world.2) ∧
    (neglectedPass 2).1 = .error (.internal "server" "out of order") ∧
      ∃ t', (neglectedPass 2).2.world.2.trees.get? "outpost" = some t' ∧
        (t'.reconcile (Scripted.api (Cluster.flaky (Cluster.hiccup 0))) ⟨2, 0⟩
          (.fresh (0, (neglectedPass 2).2.world.2))).2.NoStatusSent := by
  have hkeyed : neglectedCluster.Keyed := Cluster.keyed_of_bindings neglectedBindings rfl
  have hpass : ∀ turn, outpost.reconcile (Scripted.api (Cluster.flaky (Cluster.hiccup turn)))
      ⟨1, 0⟩ (.fresh (0, neglectedCluster)) = ((neglectedPass turn).1, (neglectedPass turn).2) :=
    fun _ => rfl
  have hrests := fun turn => reconcile_quiescent (Cluster.flaky_mayFail (Cluster.hiccup turn))
    rfl rfl ⟨1, 0⟩ (hpass turn)
  have hsucceeds : (neglectedPass 9).1 = .ok .awaitChange := rfl
  have hfails : (neglectedPass 2).1 = .error (.internal "server" "out of order") := rfl
  constructor
  · obtain ⟨t', ht', hrest⟩ :=
      (hrests 9).1 (Cluster.hiccup_deletesHonestly 9) hkeyed ⟨_, hsucceeds⟩
    exact ⟨hsucceeds, t', ht', hrest ⟨2, 0⟩⟩
  · obtain ⟨t', ht', hrest⟩ := (hrests 2).2 _ hfails (by decide)
    have hrecorded : (neglectedPass 2).2.world.2.trees.get? "outpost" =
        some (outpost.recorded (.ofFault ⟨1, 0⟩ (.internal "server" "out of order"))
          Condition.ready) := rfl
    obtain rfl := Option.some.inj (hrecorded.symm.trans ht')
    have hagain : ((outpost.recorded (.ofFault ⟨1, 0⟩ (.internal "server" "out of order"))
        Condition.ready).syncBindings (Scripted.api (Cluster.flaky (Cluster.hiccup 0)))
          (.fresh (0, (neglectedPass 2).2.world.2))).1 =
        .error (.internal "server" "out of order") := rfl
    exact ⟨hfails, _, hrecorded, hrest _ _ _ ⟨2, 0⟩ _ hagain rfl⟩

end FolderTree

end FolderGrants
