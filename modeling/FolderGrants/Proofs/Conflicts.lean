import FolderGrants.Proofs.Collapse

/-!
# Conflicts

Two emissions contradict each other when they ask for one template name in one
namespace, but for another role or for other subjects.  Emissions are taken in
order and each is compared with the first one of its key only.  As giving the
same grant is an equivalence, that is enough: the first emission that
contradicts any earlier one is refused, and without such an emission none is.

* `Emission.Contradicts` — when two emissions cannot both be met;
* `DesiredSet.Collapses.addAll_eq_error_iff` — where adding emissions stops;
* `FolderTree.desired_eq_error_iff` — the conflict that a tree is refused for;
* `FolderTree.refused_iff_contradictory` — conflicts, seen through the
  inheritance relation.
-/

namespace FolderGrants

/-- Two templates name different roles, or different sets of subjects. -/
def Template.OtherGrant (a b : Template) : Prop :=
  a.roleRef ≠ b.roleRef ∨ ¬∀ s, s ∈ a.subjects ↔ s ∈ b.subjects

/-- Templates that do not grant the same differ in the role or in the subjects. -/
theorem Template.sameGrant_eq_false_iff {a b : Template} :
    a.sameGrant b = false ↔ a.OtherGrant b := by
  rw [← Bool.not_eq_true, sameGrant_iff, OtherGrant, Classical.not_and_iff_not_or_not]

namespace Emission

/-- Two demands that cannot both be met: one template name in one namespace, but
another role or other subjects. -/
structure Contradicts (e e' : Emission) : Prop where
  ns : e.ns = e'.ns
  name : e.template.name = e'.template.name
  grant : e.template.OtherGrant e'.template

variable {b : Builder} {e e' : Emission}

/-- In the bindings of one tree a key stands for a namespace and a template name. -/
theorem key_eq_iff : e.key b = e'.key b ↔ e.ns = e'.ns ∧ e.template.name = e'.template.name := by
  rw [key, key, BindingKey.mk.injEq, Binding.nameFor, Binding.nameFor, String.append_right_inj]

/-- Two emissions contradict each other if they have one key and do not grant the same. -/
theorem contradicts_iff (b : Builder) :
    e.Contradicts e' ↔ e.key b = e'.key b ∧ e.template.sameGrant e'.template = false := by
  rw [key_eq_iff, Template.sameGrant_eq_false_iff]
  exact ⟨fun h => ⟨⟨h.ns, h.name⟩, h.grant⟩, fun h => ⟨h.1.1, h.1.2, h.2⟩⟩

end Emission

namespace DesiredSet

variable {b : Builder} {es done : List Emission} {e e' : Emission} {set : DesiredSet} {c : Conflict}

/-- An emission is refused exactly if what was granted at its key first is something
else. -/
theorem add_eq_error_iff :
    add b set e = .error c ↔
      c = e.conflict b ∧ ∃ first, set.get? (e.key b) = some first ∧
        first.template.sameGrant e.template = false := by
  simp only [add, Emission.grant_key]
  cases hget : set.get? (e.key b) with
  | none => simp
  | some first =>
      by_cases hsame : first.template.sameGrant e.template = true
      · simp [hsame]
      · simpa [hsame] using eq_comm

/-- A list of emissions is refused over the first one, or over the rest. -/
theorem addAll_cons_eq_error_iff {rest : List Emission} :
    addAll b (e :: rest) set = .error c ↔
      add b set e = .error c ∨ ∃ mid, add b set e = .ok mid ∧ addAll b rest mid = .error c := by
  simp only [addAll]
  cases add b set e with
  | error c' => simp [bind, Except.bind]
  | ok mid => simp [bind, Except.bind]

/-- Emissions that collapse do not contradict each other. -/
theorem Collapses.not_contradicts (h : Collapses b es set) (he : e ∈ es) (he' : e' ∈ es) :
    ¬e.Contradicts e' := by
  intro hcontra
  obtain ⟨hkey, hother⟩ := (Emission.contradicts_iff b).1 hcontra
  rw [h.same e he e' he' hkey] at hother
  cases hother

/-- An emission is refused exactly if it contradicts one that came before, though
it is only compared with the first one of its key. -/
theorem Collapses.add_eq_error_iff (h : Collapses b done set) :
    add b set e = .error c ↔ c = e.conflict b ∧ ∃ e' ∈ done, e'.Contradicts e := by
  rw [DesiredSet.add_eq_error_iff]
  refine and_congr_right fun _ => ?_
  constructor
  · intro hrefused
    obtain ⟨first, hfirst, hother⟩ := hrefused
    obtain ⟨e', he', hkey, rfl⟩ := h.exists_emission hfirst
    exact ⟨e', he', (Emission.contradicts_iff b).2 ⟨hkey, hother⟩⟩
  · intro hcontra
    obtain ⟨e', he', hcontra⟩ := hcontra
    obtain ⟨hkey, hother⟩ := (Emission.contradicts_iff b).1 hcontra
    obtain ⟨first, hfirst, hsame⟩ := h.exists_grant he'
    rw [hkey] at hfirst
    refine ⟨first, hfirst, Bool.eq_false_iff.2 fun hsame' => ?_⟩
    rw [Template.sameGrant_trans (Template.sameGrant_symm hsame) hsame'] at hother
    cases hother

/-- Adding emissions stops at the first one that contradicts an earlier one: those
before it still collapse. -/
theorem Collapses.addAll_eq_error_iff (h : Collapses b done set) :
    addAll b es set = .error c ↔
      ∃ before e after, es = before ++ e :: after ∧ c = e.conflict b ∧
        (∃ e' ∈ done ++ before, e'.Contradicts e) ∧ ∃ mid, Collapses b (done ++ before) mid := by
  induction es generalizing done set with
  | nil => simp [addAll]
  | cons e rest ih =>
      rw [addAll_cons_eq_error_iff]
      constructor
      · intro hstop
        rcases hstop with hhere | ⟨mid, hadd, hlater⟩
        · obtain ⟨hc, hcontra⟩ := h.add_eq_error_iff.1 hhere
          exact ⟨[], e, rest, rfl, hc, by simpa using hcontra, set, by simpa using h⟩
        · obtain ⟨before, e', after, rfl, hc, hcontra, hmid⟩ :=
            (ih (h.add_eq_ok_iff.1 hadd)).1 hlater
          rw [List.append_assoc] at hcontra hmid
          exact ⟨e :: before, e', after, rfl, hc, hcontra, hmid⟩
      · intro hstop
        obtain ⟨before, e', after, hes, hc, hcontra, mid, hmid⟩ := hstop
        cases before with
        | nil =>
            obtain ⟨rfl, rfl⟩ := List.cons.inj hes
            rw [List.append_nil] at hcontra
            exact .inl (h.add_eq_error_iff.2 ⟨hc, hcontra⟩)
        | cons first before =>
            obtain ⟨rfl, rfl⟩ := List.cons.inj hes
            have hsplit : done ++ e :: before = done ++ [e] ++ before := by simp
            obtain ⟨next, hnext⟩ := h.exists_snoc hmid
            rw [hsplit] at hcontra hmid
            exact .inr ⟨next, h.add_eq_ok_iff.2 hnext,
              (ih hnext).2 ⟨before, e', after, rfl, hc, hcontra, mid, hmid⟩⟩

end DesiredSet

namespace FolderTree

variable {t : FolderTree} {b : Builder} {c : Conflict}

/-- A tree is refused exactly if one of its emissions contradicts an earlier one,
and it is refused for the first such emission. -/
theorem desired_eq_error_iff :
    t.desired b = .error c ↔
      ∃ before e after, t.spec.emissions = before ++ e :: after ∧ c = e.conflict b ∧
        (∃ e' ∈ before, e'.Contradicts e) ∧
        ∀ e₁ ∈ before, ∀ e₂ ∈ before, ¬e₁.Contradicts e₂ := by
  rw [desired, DesiredSet.collapses_nil.addAll_eq_error_iff]
  simp only [List.nil_append]
  refine exists_congr fun before => exists_congr fun e => exists_congr fun after => ?_
  refine and_congr_right fun _ => and_congr_right fun _ => and_congr_right fun _ => ?_
  constructor
  · intro hcollapse
    obtain ⟨mid, hmid⟩ := hcollapse
    exact fun e₁ h₁ e₂ h₂ => hmid.not_contradicts h₁ h₂
  · intro hagree
    cases hrun : DesiredSet.addAll b before .empty with
    | ok mid => exact ⟨mid, DesiredSet.collapses_nil.addAll_eq_ok_iff.1 hrun⟩
    | error c' =>
        obtain ⟨pre, e', post, rfl, -, ⟨e'', he'', hcontra⟩, -⟩ :=
          DesiredSet.collapses_nil.addAll_eq_error_iff.1 hrun
        exact absurd hcontra (hagree e'' (by simpa using .inl he'') e' (by simp))

/-- A tree is refused exactly if two of its emissions contradict each other. -/
theorem desired_fails_iff :
    (∃ c, t.desired b = .error c) ↔
      ∃ e ∈ t.spec.emissions, ∃ e' ∈ t.spec.emissions, e.Contradicts e' := by
  cases hrun : t.desired b with
  | ok set =>
      have hset := desired_eq_ok_iff.1 hrun
      constructor
      · intro hfails
        obtain ⟨c, hc⟩ := hfails
        cases hc
      · intro hcontra
        obtain ⟨e, he, e', he', hcontra⟩ := hcontra
        exact absurd hcontra (hset.not_contradicts he he')
  | error c =>
      obtain ⟨before, e, after, hes, -, ⟨e', he', hcontra⟩, -⟩ := desired_eq_error_iff.1 hrun
      rw [hes]
      exact ⟨fun _ => ⟨e', by simp [he'], e, by simp, hcontra⟩, fun _ => ⟨c, rfl⟩⟩

/-- **Conflicts are found exactly.**  A tree has no desired set exactly if two
folders ask, under one template name and in one namespace, for different roles
or different subjects.  It is then refused for the first emission that
contradicts an earlier one.  A folder without namespaces asks for nothing, and
demands for the same grant do not conflict, however many there are. -/
theorem refused_iff_contradictory (t : FolderTree) (b : Builder) :
    ((∃ c, t.desired b = .error c) ↔
      ∃ f f' m m' ns, t.spec.Emits f m ns ∧ t.spec.Emits f' m' ns ∧ m.name = m'.name ∧
        m.OtherGrant m') ∧
    (∀ c, t.desired b = .error c ↔
      ∃ before e after, t.spec.emissions = before ++ e :: after ∧
        c = ⟨b.tree, e.folder, e.template.name, e.ns⟩ ∧
        (∃ e' ∈ before, e'.Contradicts e) ∧
        ∀ e₁ ∈ before, ∀ e₂ ∈ before, ¬e₁.Contradicts e₂) ∧
    (∀ f, f.namespaces = [] → ∀ m ns, ¬t.spec.Emits f m ns) ∧
    ((∀ f f' m m' ns, t.spec.Emits f m ns → t.spec.Emits f' m' ns → m.name = m'.name →
        m.roleRef = m'.roleRef ∧ ∀ s, s ∈ m.subjects ↔ s ∈ m'.subjects) →
      ∃ set, t.desired b = .ok set) := by
  have hfails : (∃ c, t.desired b = .error c) ↔
      ∃ f f' m m' ns, t.spec.Emits f m ns ∧ t.spec.Emits f' m' ns ∧ m.name = m'.name ∧
        m.OtherGrant m' := by
    rw [desired_fails_iff]
    constructor
    · intro h
      obtain ⟨e, he, e', he', hcontra⟩ := h
      obtain ⟨f, hemits, -⟩ := Spec.mem_emissions_iff.1 he
      obtain ⟨f', hemits', -⟩ := Spec.mem_emissions_iff.1 he'
      exact ⟨f, f', e.template, e'.template, e.ns, hemits, hcontra.ns ▸ hemits', hcontra.name,
        hcontra.grant⟩
    · intro h
      obtain ⟨f, f', m, m', ns, hemits, hemits', hname, hother⟩ := h
      exact ⟨⟨f.name, m, ns⟩, Spec.mem_emissions_iff.2 ⟨f, hemits, rfl⟩,
        ⟨f'.name, m', ns⟩, Spec.mem_emissions_iff.2 ⟨f', hemits', rfl⟩, rfl, hname, hother⟩
  refine ⟨hfails, fun c => desired_eq_error_iff, fun f hnone m ns hemits => ?_, fun hagree => ?_⟩
  · have hns : ns ∈ f.namespaces := by
      cases hemits with
      | placed _ _ _ _ hns => exact hns
      | standalone _ _ _ hns => exact hns
    rw [hnone] at hns
    cases hns
  · cases hrun : t.desired b with
    | ok set => exact ⟨set, rfl⟩
    | error c =>
        obtain ⟨f, f', m, m', ns, hemits, hemits', hname, hother⟩ := hfails.1 ⟨c, hrun⟩
        obtain ⟨hrole, hsubjects⟩ := hagree f f' m m' ns hemits hemits' hname
        rcases hother with hother | hother
        · exact absurd hrole hother
        · exact absurd hsubjects hother

/-- A tree whose top hands a template down, through a node that only groups, to a
folder that has another one of that name. -/
def tornPlatform : FolderTree where
  metadata := { name := some "torn" }
  spec :=
    { root := some ⟨"org", [⟨"teams", [⟨"api", []⟩]⟩]⟩
      folders :=
        [{ name := "org"
           templates := [⟨"admin", [.group "ops"], .clusterRole "admin", some true⟩] },
         { name := "api"
           templates := [⟨"admin", [.group "ops"], .clusterRole "cluster-admin", none⟩]
           namespaces := ["api-ns"] }] }

theorem refused_iff_contradictory_torn :
    tornPlatform.desired (.ownedBy tornPlatform) = .error ⟨"torn", "api", "admin", "api-ns"⟩ ∧
      (∃ f f' m m' ns, tornPlatform.spec.Emits f m ns ∧ tornPlatform.spec.Emits f' m' ns ∧
        m.name = m'.name ∧ m.OtherGrant m') ∧
      ∃ before e after, tornPlatform.spec.emissions = before ++ e :: after ∧
        (⟨"torn", "api", "admin", "api-ns"⟩ : Conflict) =
          ⟨"torn", e.folder, e.template.name, e.ns⟩ ∧
        ∃ e' ∈ before, e'.Contradicts e := by
  have hrefused : tornPlatform.desired (.ownedBy tornPlatform) =
      .error ⟨"torn", "api", "admin", "api-ns"⟩ := rfl
  obtain ⟨hfails, hfirst, -, -⟩ := refused_iff_contradictory tornPlatform (.ownedBy tornPlatform)
  obtain ⟨before, e, after, hes, hc, hcontra, -⟩ := (hfirst _).1 hrefused
  exact ⟨hrefused, hfails.1 ⟨_, hrefused⟩, before, e, after, hes, hc, hcontra⟩

end FolderTree

end FolderGrants
