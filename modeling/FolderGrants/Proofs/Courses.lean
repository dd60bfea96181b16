import FolderGrants.Pass.Course
import FolderGrants.Proofs.PassOutcome
import FolderGrants.Proofs.SameChanges

/-!
# Courses of passes

A course says which calls a pass makes and how each depends on the answers before
it.  Run without a pause it is the pass, on any server.  And it stays within the
part of the cluster that is its tree's: what it writes carries the label of the
tree, and it writes and deletes at keys that the tree requires or that held
something with this label when it was listed.

* `FolderTree.run_course` — a course that is run without a pause is the pass;
* `Course.Within` — a course that stays within some keys;
* `FolderTree.course_within` — the course of a pass does.
-/

namespace FolderGrants

namespace Course

variable {σ α β : Type} {api : Api σ}

/-- To run a sequence is to run its parts in sequence. -/
theorem run_bind (p : Course α) (f : α → Course β) :
    (p >>= f).run api = p.run api >>= fun x => (f x).run api := by
  show (p.bind f).run api = _
  funext s
  induction p generalizing s with
  | ended x =>
      rw [Action.bind_run]
      cases x with
      | error e => rfl
      | ok x => rfl
  | call q next ih =>
      rw [Action.bind_run]
      show ((next (api.answer q s).1).bind f).run api (api.answer q s).2 = _
      rw [ih, Action.bind_run]
      rfl

/-- To run what forgives faults is to forgive them in the run. -/
theorem run_forgiving (fine : Fault → Bool) (p : Course Unit) :
    (p.forgiving fine).run api = (p.run api).forgiving fine := by
  funext s
  induction p generalizing s with
  | ended x =>
      cases x with
      | error f => rfl
      | ok u => rfl
  | call q next ih => exact ih _ _

end Course

section Adequacy

variable {σ : Type} (api : Api σ)

/-- The course of a change runs as the change is applied. -/
theorem Change.run_course (c : Change) : c.course.run api = c.apply api := by
  obtain ⟨kind, ns, template, existing, desired⟩ := c
  cases kind with
  | create =>
      cases desired with
      | none => rfl
      | some b =>
          refine (Course.run_bind _ _).trans (bind_congr fun found => ?_)
          cases found with
          | false => rfl
          | true => exact Course.run_bind _ _
  | update =>
      cases existing with
      | none => rfl
      | some held =>
          cases desired with
          | none => rfl
          | some b => exact Course.run_bind _ _
  | delete =>
      refine (Course.run_bind _ _).trans ?_
      rw [Course.run_forgiving]
      rfl

/-- So does the course of a list of changes. -/
theorem Change.run_courseAll (changes : List Change) (summary : Summary) :
    (courseAll changes summary).run api = applyAll api changes summary := by
  induction changes generalizing summary with
  | nil => rfl
  | cons c rest ih =>
      refine (Course.run_bind _ _).trans ?_
      rw [c.run_course]
      exact bind_congr fun o => ih (summary.count o)

/-- **A course that is run without a pause is the pass.** -/
theorem FolderTree.run_course (t : FolderTree) : t.course.run api = t.syncBindings api := by
  refine (Course.run_bind _ _).trans (bind_congr fun desired => ?_)
  refine (Course.run_bind _ _).trans (bind_congr fun live => ?_)
  exact Change.run_courseAll api _ _

end Adequacy

/-- What carries the label of the tree stands at keys of `T`, each under its own. -/
structure Cluster.Confines (K : Cluster) (tree : String) (T : BindingKey → Prop) : Prop where
  keyed : K.Keyed
  own : ∀ k b, K.bindings.get? k = some b → b.tree? = some tree → T k

/-- A call that stays within `T`: it lists what carries the label of the tree, it
writes what carries it at keys of `T`, and it deletes at keys of `T`. -/
inductive Query.Within (tree : String) (T : BindingKey → Prop) : {β : Type} → Query β → Prop
  | list : Within tree T (.list tree)
  | namespaceExists (ns : String) : Within tree T (.namespaceExists ns)
  | create {b : Binding} (hb : b.tree? = some tree) (hkey : T b.key) : Within tree T (.create b)
  | replace {b : Binding} (hb : b.tree? = some tree) (hkey : T b.key) : Within tree T (.replace b)
  | delete {key : BindingKey} (hkey : T key) : Within tree T (.delete key)

/-- All calls of the course stay within `T`, as long as they are answered by
clusters in which what carries the label of the tree does so too. -/
inductive Course.Within {α : Type} (tree : String) (T : BindingKey → Prop) : Course α → Prop
  | ended (x : Except Fault α) : Within tree T (.ended x)
  | call {β : Type} {q : Query β} {next : Except Fault β → Course α} (hq : q.Within tree T)
      (hnext : ∀ K : Cluster, K.Confines tree T →
        Within tree T (next (Cluster.api.answer q K).1)) :
      Within tree T (.call q next)

namespace Course

variable {α β : Type} {tree : String} {T : BindingKey → Prop}

/-- A question that stays within a tree and a set of namespaces makes a course that
does. -/
theorem Within.ask {q : Query β} (hq : q.Within tree T) : (ask q).Within tree T :=
  .call hq fun _ _ => .ended _

/-- So does a sequence of courses that do. -/
theorem Within.bind {p : Course α} {f : α → Course β} (hp : p.Within tree T)
    (hf : ∀ x, (f x).Within tree T) : (p >>= f).Within tree T := by
  induction hp with
  | ended x =>
      cases x with
      | error e => exact .ended _
      | ok x => exact hf x
  | call hq _ ih => exact .call hq ih

/-- To forgive faults leads nowhere else. -/
theorem Within.forgiving {p : Course Unit} (hp : p.Within tree T) (fine : Fault → Bool) :
    (p.forgiving fine).Within tree T := by
  induction hp with
  | ended x =>
      cases x with
      | error e => exact .ended _
      | ok u => exact .ended _
  | call hq _ ih => exact .call hq ih

end Course

namespace Change

variable {tree : String} {T : BindingKey → Prop}

/-- A change stays within `T` if it touches a key of `T` and what it writes carries
the label. -/
theorem course_within {c : Change} {k : BindingKey} (habout : c.About k) (hk : T k)
    (hwritten : ∀ b, c.written? = some b → b.tree? = some tree) : c.course.Within tree T := by
  have hkey : ∀ b, c.written? = some b → T b.key := fun b hb => (habout.written b hb).symm ▸ hk
  have hdelete : T c.key := habout.key.symm ▸ hk
  obtain ⟨kind, ns, template, existing, desired⟩ := c
  cases kind with
  | create =>
      cases desired with
      | none => exact .ended _
      | some b =>
          refine (Course.Within.ask (.namespaceExists ns)).bind fun found => ?_
          cases found with
          | false => exact .ended _
          | true =>
              have hcreate := Course.Within.ask (.create (hwritten b rfl) (hkey b rfl))
              exact hcreate.bind fun _ => .ended _
  | update =>
      cases existing with
      | none => exact .ended _
      | some held =>
          cases desired with
          | none => exact .ended _
          | some b =>
              have hreplace := Course.Within.ask (.replace (hwritten _ rfl) (hkey _ rfl))
              exact hreplace.bind fun _ => .ended _
  | delete => exact ((Course.Within.ask (.delete hdelete)).forgiving _).bind fun _ => .ended _

/-- A list of changes stays within what each of them stays within. -/
theorem courseAll_within {changes : List Change} (h : ∀ c ∈ changes, c.course.Within tree T)
    (summary : Summary) : (courseAll changes summary).Within tree T := by
  induction changes generalizing summary with
  | nil => exact .ended _
  | cons c rest ih =>
      have hrest : ∀ c' ∈ rest, c'.course.Within tree T :=
        fun c' hc' => h c' (List.mem_cons_of_mem _ hc')
      exact (h c List.mem_cons_self).bind fun o => ih hrest (summary.count o)

end Change

namespace FolderTree

variable {t : FolderTree} {T : BindingKey → Prop}

/-- The changes that are due over what was listed stay within `T`. -/
theorem due_within {desired : DesiredSet} {K : Cluster} (hdesired : t.ownedDesired = .ok desired)
    (hrequired : ∀ k, t.Requires k → T k) (hK : K.Confines t.name T) {c : Change}
    (hc : c ∈ desired.changesFrom (.ofBindings (K.bindingsOf t.name))) :
    c.course.Within t.name T := by
  have hwant : ∀ k g, desired.get? k = some g → g.binding.key = k ∧ T k := by
    intro k g hg
    have hk : t.Requires k := requires_of_owned hdesired hg
    exact ⟨desired_keyed hdesired k g hg, hrequired k hk⟩
  have hlabel : ∀ k g (b : Binding), desired.get? k = some g → b.Serves g.binding →
      b.tree? = some t.name :=
    fun k g b hg hserves => (tracking_of_serves hdesired hg hserves).2.1
  have hlisted : ∀ k held, (Baseline.ofBindings (K.bindingsOf t.name)).get? k = some held →
      held.binding.key = k ∧ T k := by
    intro k held hheld
    obtain ⟨hb, htree, -⟩ := (Baseline.get?_ofListed_iff hK.keyed).1 hheld
    exact ⟨hK.keyed k _ hb, hK.own k _ hb htree⟩
  cases DesiredSet.mem_changesFrom_iff_due.1 hc with
  | @creation k g hg _ =>
      obtain ⟨hkey, hk⟩ := hwant k g hg
      refine Change.course_within (Change.creation_about hkey) hk fun b hb => ?_
      obtain rfl := Option.some.inj hb
      exact hlabel k g _ hg (.refl _)
  | @renewal k g held hg hheld _ _ =>
      obtain ⟨hkey, hk⟩ := hwant k g hg
      obtain ⟨hkey', -⟩ := hlisted k held hheld
      refine Change.course_within (Change.renewal_about hkey' hkey) hk fun b hb => ?_
      obtain rfl := Option.some.inj hb
      exact hlabel k g _ hg (Binding.refreshed_serves _ _)
  | @removal k held hheld _ =>
      obtain ⟨hkey, hk⟩ := hlisted k held hheld
      refine Change.course_within (Change.removal_about hkey) hk fun b hb => ?_
      cases hb

/-- The course of a pass stays within any keys that hold all that the tree requires. -/
theorem course_within (hrequired : ∀ k, t.Requires k → T k) : t.course.Within t.name T := by
  rw [course]
  cases hdesired : t.ownedDesired with
  | error c => exact .ended _
  | ok desired =>
      exact .call .list fun K hK =>
        Change.courseAll_within (fun c hc => due_within hdesired hrequired hK hc) {}

end FolderTree

end FolderGrants
