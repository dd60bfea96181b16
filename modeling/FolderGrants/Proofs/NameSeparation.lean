import FolderGrants.Proofs.PassOutcome
import FolderGrants.Proofs.SameChanges

/-!
# Names that separate trees

The name of a binding is made of the names of its tree and of its template with a
hyphen in between, and both may have hyphens of their own.  The names of two trees
therefore give one name exactly if one of them goes on after the other with a
hyphen and the template names make up for the rest.  Unless one does, no key is
required by both trees: to rename a tree is then to create and to delete, and no
binding of one tree stands where the other one has to create.

* `Binding.nameFor_eq_iff` — when two names of bindings are one;
* `FolderTree.namesApart_iff` — which names of trees keep all keys apart;
* `FolderTree.separate_unless_continued` — what follows for two trees;
* `FolderTree.fought_over_by_hyphens` — what happens to two others.
-/

namespace FolderGrants

/-- `n'` goes on after `n` with a hyphen. -/
def Continues (n n' : String) : Prop := ∃ w, n' = n ++ "-" ++ w

/-- A name goes on after another one if it begins with that one and a dash. -/
theorem continues_iff {n n' : String} : Continues n n' ↔ (n ++ "-").toList <+: n'.toList := by
  constructor
  · intro h
    obtain ⟨w, rfl⟩ := h
    exact ⟨w.toList, by simp⟩
  · intro h
    obtain ⟨rest, hrest⟩ := h
    refine ⟨String.ofList rest, String.toList_inj.1 ?_⟩
    simp [← hrest]

instance (n n' : String) : Decidable (Continues n n') := decidable_of_iff _ continues_iff.symm

example : Continues "team" "team-ops" := by decide
example : ¬Continues "team" "teams" := by decide

namespace Binding

variable {n n' p p' : String}

/-- Where the first name ends within the second, or at its end. -/
theorem continues_of_toList {rest : List Char} (hname : n'.toList = n.toList ++ rest)
    (hrest : '-' :: p.toList = rest ++ '-' :: p'.toList) :
    n = n' ∧ p = p' ∨ ∃ w, n' = n ++ "-" ++ w ∧ p = w ++ "-" ++ p' := by
  cases rest with
  | nil =>
      have hn : n'.toList = n.toList := by simpa using hname
      have hp : p.toList = p'.toList := by simpa using hrest
      exact .inl ⟨(String.toList_inj.1 hn).symm, String.toList_inj.1 hp⟩
  | cons c rest =>
      obtain ⟨rfl, hp⟩ : '-' = c ∧ p.toList = rest ++ '-' :: p'.toList := by simpa using hrest
      refine .inr ⟨String.ofList rest, ?_, ?_⟩
      · apply String.toList_inj.1
        simp [hname]
      · apply String.toList_inj.1
        simp [hp]

/-- **When two bindings have one name.**  They are of one tree and one template, or
one tree name goes on after the other and the template names make up for it. -/
theorem nameFor_eq_iff :
    nameFor n p = nameFor n' p' ↔
      n = n' ∧ p = p' ∨
      (∃ w, n' = n ++ "-" ++ w ∧ p = w ++ "-" ++ p') ∨
      ∃ w, n = n' ++ "-" ++ w ∧ p' = w ++ "-" ++ p := by
  constructor
  · intro h
    have hlist : n.toList ++ '-' :: p.toList = n'.toList ++ '-' :: p'.toList := by
      have htext := String.toList_inj.2 h
      simpa [nameFor] using htext
    rcases List.append_eq_append_iff.1 hlist with ⟨rest, hname, hrest⟩ | ⟨rest, hname, hrest⟩
    · rcases continues_of_toList hname hrest with hsame | hcontinues
      · exact .inl hsame
      · exact .inr (.inl hcontinues)
    · rcases continues_of_toList hname hrest with ⟨hn, hp⟩ | hcontinues
      · exact .inl ⟨hn.symm, hp.symm⟩
      · exact .inr (.inr hcontinues)
  · intro h
    rcases h with ⟨rfl, rfl⟩ | ⟨w, rfl, rfl⟩ | ⟨w, rfl, rfl⟩
    · rfl
    · simp only [nameFor, String.append_assoc]
    · simp only [nameFor, String.append_assoc]

/-- Names that do not go on after each other give different names to bindings. -/
theorem nameFor_ne (hne : n ≠ n') (h : ¬Continues n n') (h' : ¬Continues n' n) (p p' : String) :
    nameFor n p ≠ nameFor n' p' := by
  intro heq
  rcases nameFor_eq_iff.1 heq with ⟨hsame, -⟩ | ⟨w, hw, -⟩ | ⟨w, hw, -⟩
  · exact hne hsame
  · exact h ⟨w, hw⟩
  · exact h' ⟨w, hw⟩

end Binding

namespace FolderTree

variable {n n' : String}

/-- A required key has a name that is made for the tree. -/
theorem Requires.exists_nameFor {t : FolderTree} {k : BindingKey} (h : t.Requires k) :
    ∃ p, k.name = Binding.nameFor t.name p := by
  obtain ⟨set, hset, hk⟩ := h
  obtain ⟨g, hg⟩ := OrderedMap.mem_keys_iff.1 hk
  obtain ⟨e, -, rfl, -⟩ := (desired_eq_ok_iff.1 hset).exists_emission hg
  exact ⟨e.template.name, rfl⟩

/-- No key is required by two trees of these names. -/
def NamesApart (n n' : String) : Prop :=
  ∀ t v : FolderTree, t.name = n → v.name = n' → ∀ k, t.Requires k → ¬v.Requires k

/-- A tree of one folder that applies one template to one namespace. -/
def ofTemplate (name template : String) : FolderTree where
  metadata := { name := some name }
  spec :=
    { folders :=
        [{ name := "only"
           templates := [⟨template, [], .clusterRole "view", none⟩]
           namespaces := ["a"] }] }

/-- The tree of one template requires the key that is made of the two names. -/
theorem ofTemplate_requires (name template : String) :
    (ofTemplate name template).Requires ⟨"a", Binding.nameFor name template⟩ :=
  ⟨_, rfl, List.mem_singleton_self _⟩

theorem NamesApart.symm (h : NamesApart n n') : NamesApart n' n :=
  fun t v ht hv k hk hk' => h v t hv ht k hk' hk

/-- If one name goes on after the other, there are trees of these names that require
one key. -/
theorem NamesApart.not_continues (h : NamesApart n n') : ¬Continues n n' := by
  intro hcontinues
  obtain ⟨w, rfl⟩ := hcontinues
  have hkey : Binding.nameFor n (w ++ "-" ++ "view") = Binding.nameFor (n ++ "-" ++ w) "view" :=
    Binding.nameFor_eq_iff.2 (.inr (.inl ⟨w, rfl, rfl⟩))
  refine h (ofTemplate n (w ++ "-" ++ "view")) (ofTemplate (n ++ "-" ++ w) "view") rfl rfl _
    (ofTemplate_requires n _) ?_
  rw [hkey]
  exact ofTemplate_requires _ _

/-- Names keep all keys apart exactly if neither goes on after the other. -/
theorem namesApart_iff (hne : n ≠ n') :
    NamesApart n n' ↔ ¬Continues n n' ∧ ¬Continues n' n := by
  constructor
  · intro h
    exact ⟨h.not_continues, h.symm.not_continues⟩
  · intro h t v ht hv k hk hk'
    obtain ⟨p, hp⟩ := hk.exists_nameFor
    obtain ⟨p', hp'⟩ := hk'.exists_nameFor
    rw [ht] at hp
    rw [hv] at hp'
    exact Binding.nameFor_ne hne h.1 h.2 p p' (hp.symm.trans hp')

section Versions

variable {t v : FolderTree} {changes : List Change}

/-- What is updated or deleted was required by the old tree, and what is created or
updated is required by the new one. -/
theorem requires_of_mem_changesFrom (hchanges : changesFrom (some t) v = .ok changes) {c : Change}
    (hc : c ∈ changes) :
    (c.kind ≠ .create → t.Requires c.key) ∧ (c.kind ≠ .delete → v.Requires c.key) := by
  obtain ⟨before, after, hbefore, hafter, rfl⟩ := changesFrom_some_eq_ok_iff.1 hchanges
  have hold : ∀ k held, before.baseline.get? k = some held →
      held.binding.key = k ∧ t.Requires k := by
    intro k held hheld
    have hkey := (desired_keyed hbefore).baseline k held hheld
    obtain ⟨g, hg, -⟩ := DesiredSet.get?_baseline_eq_some_iff.1 hheld
    exact ⟨hkey, requires_of_unowned hbefore hg⟩
  have hnew : ∀ k g, after.get? k = some g → g.binding.key = k ∧ v.Requires k :=
    fun k g hg => ⟨desired_keyed hafter k g hg, requires_of_unowned hafter hg⟩
  cases DesiredSet.mem_changesFrom_iff_due.1 hc with
  | @creation k g hg _ =>
      obtain ⟨hkey, hrequired⟩ := hnew k g hg
      rw [(Change.creation_about hkey).key]
      exact ⟨fun hkind => absurd rfl hkind, fun _ => hrequired⟩
  | @renewal k g held hg hheld _ _ =>
      obtain ⟨hkey, hrequired⟩ := hnew k g hg
      obtain ⟨hkey', hrequired'⟩ := hold k held hheld
      rw [(Change.renewal_about hkey' hkey).key]
      exact ⟨fun _ => hrequired', fun _ => hrequired⟩
  | @removal k held hheld _ =>
      obtain ⟨hkey, hrequired⟩ := hold k held hheld
      rw [(Change.removal_about hkey).key]
      exact ⟨fun _ => hrequired, fun hkind => absurd rfl hkind⟩

/-- Between trees that share no key, nothing is updated, and what is deleted is not
created again. -/
theorem changesFrom_of_disjoint (hdisjoint : ∀ k, t.Requires k → ¬v.Requires k)
    (hchanges : changesFrom (some t) v = .ok changes) :
    (∀ c ∈ changes, c.kind ≠ .update) ∧
      ∀ c ∈ changes, ∀ c' ∈ changes, c.kind = .delete → c'.kind = .create → c.key ≠ c'.key := by
  constructor
  · intro c hc hkind
    obtain ⟨hold, hnew⟩ := requires_of_mem_changesFrom hchanges hc
    exact hdisjoint c.key (hold (by simp [hkind])) (hnew (by simp [hkind]))
  · intro c hc c' hc' hdelete hcreate hkey
    have hold := (requires_of_mem_changesFrom hchanges hc).1 (by simp [hdelete])
    have hnew := (requires_of_mem_changesFrom hchanges hc').2 (by simp [hcreate])
    exact hdisjoint c.key hold (hkey ▸ hnew)

end Versions

/-- Where bindings of one tree stand only at keys that some version of it requires,
they stop no pass of a tree whose name keeps all keys apart. -/
theorem NamesApart.pass_or_stopped {v : FolderTree} {desired : DesiredSet} {K : Cluster}
    (h : NamesApart n v.name) (hK : K.Keyed)
    (hmade : ∀ k b, K.bindings.get? k = some b → b.tree? = some n →
      ∃ t : FolderTree, t.name = n ∧ t.Requires k)
    (hdesired : v.ownedDesired = .ok desired) :
    (∃ summary K', v.syncBindings Cluster.api K = (.ok summary, K')) ∨
      ∃ k b K', v.syncBindings Cluster.api K =
          (.error (.refused (.alreadyExists k.text)), K') ∧
        K.bindings.get? k = some b ∧ b.tree? ≠ some v.name ∧ b.tree? ≠ some n := by
  rcases desired.free_or_first_taken v.name K with
    hfree | ⟨before, k, g, after, hentries, hfree, htaken⟩
  · obtain ⟨summary, K', hrun, -⟩ := pass_through hK hdesired hfree
    exact .inl ⟨summary, K', hrun⟩
  · obtain ⟨K', hrun, -⟩ := pass_stopped hK hdesired hentries hfree htaken
    obtain ⟨b, hb, hother⟩ := exists_of_foreign (Bool.and_eq_true_iff.1 htaken).1
    have hrequired : v.Requires k :=
      requires_of_owned hdesired (OrderedMap.get?_of_entries hentries)
    refine .inr ⟨k, b, K', hrun, hb, hother, fun htree => ?_⟩
    obtain ⟨t, ht, hk⟩ := hmade k b hb htree
    exact h t v ht rfl k hk hrequired

/-- **Names separate trees unless one goes on after the other.**  If neither does, no
two trees of these names require one key; renaming one into the other only creates
and deletes, and at different keys; and a binding of the one, at a key that some
version of it requires, never stands where the other one has to create.  If one does
go on after the other, some trees of these names require one key. -/
theorem separate_unless_continued {n n' : String} (hne : n ≠ n') :
    (NamesApart n n' ↔ ¬Continues n n' ∧ ¬Continues n' n) ∧
    (NamesApart n n' → ∀ t v : FolderTree, t.name = n → v.name = n' →
      (∀ changes, changesFrom (some t) v = .ok changes →
        (∀ c ∈ changes, c.kind ≠ .update) ∧
        ∀ c ∈ changes, ∀ c' ∈ changes, c.kind = .delete → c'.kind = .create → c.key ≠ c'.key) ∧
      ∀ K : Cluster, K.Keyed →
        (∀ k b, K.bindings.get? k = some b → b.tree? = some n →
          ∃ t : FolderTree, t.name = n ∧ t.Requires k) →
        ∀ desired, v.ownedDesired = .ok desired →
          (∃ summary K', v.syncBindings Cluster.api K = (.ok summary, K')) ∨
          ∃ k b K', v.syncBindings Cluster.api K =
              (.error (.refused (.alreadyExists k.text)), K') ∧
            K.bindings.get? k = some b ∧ b.tree? ≠ some n' ∧ b.tree? ≠ some n) := by
  refine ⟨namesApart_iff hne, fun hapart t v ht hv => ⟨fun changes hchanges => ?_, ?_⟩⟩
  · exact changesFrom_of_disjoint (hapart t v ht hv) hchanges
  · subst hv
    exact fun K hK hmade desired hdesired => hapart.pass_or_stopped hK hmade hdesired

/-- A tree of the given name that lets one user edit in one namespace, by way of two
templates. -/
def editors (name : String) : FolderTree where
  metadata := { name := some name, uid := some "uid-1" }
  spec :=
    { folders :=
        [{ name := "dev"
           templates :=
             [⟨"edit", [.user "ada"], .clusterRole "edit", none⟩,
              ⟨"ops-edit", [.user "ada"], .clusterRole "edit", none⟩]
           namespaces := ["a"] }] }

/-- A cluster with that namespace, after a pass over the team's tree. -/
def teamCluster : Cluster :=
  ((editors "team").syncBindings Cluster.api { namespaces := .ofList [("a", ())] }).2

theorem separate_unless_continued_team :
    NamesApart "team" "ops" ∧
      (∃ changes, changesFrom (some (editors "team")) (editors "ops") = .ok changes ∧
        changes.map Change.kind = [.create, .create, .delete, .delete] ∧
        ∀ c ∈ changes, ∀ c' ∈ changes, c.kind = .delete → c'.kind = .create → c.key ≠ c'.key) ∧
      teamCluster.bindings.keys =
        [⟨"a", "foldertree-team-edit"⟩, ⟨"a", "foldertree-team-ops-edit"⟩] ∧
      ((∃ summary K', (editors "ops").syncBindings Cluster.api teamCluster = (.ok summary, K')) ∨
        ∃ k b K', (editors "ops").syncBindings Cluster.api teamCluster =
            (.error (.refused (.alreadyExists k.text)), K') ∧
          teamCluster.bindings.get? k = some b ∧ b.tree? ≠ some "ops" ∧
          b.tree? ≠ some "team") := by
  have hne : "team" ≠ "ops" := by decide
  obtain ⟨hiff, hfollows⟩ := separate_unless_continued hne
  have hapart : NamesApart "team" "ops" := hiff.2 ⟨by decide, by decide⟩
  obtain ⟨hchanges, hpass⟩ := hfollows hapart (editors "team") (editors "ops") rfl rfl
  have hkeyed : teamCluster.Keyed := Cluster.keyed_of_bindings teamCluster.bindings.values rfl
  have hmade : ∀ k b, teamCluster.bindings.get? k = some b → b.tree? = some "team" →
      ∃ t : FolderTree, t.name = "team" ∧ t.Requires k := by
    intro k b hb _
    have hk : k ∈ teamCluster.bindings.keys := OrderedMap.mem_keys_iff.2 ⟨b, hb⟩
    exact ⟨editors "team", rfl, _, rfl, hk⟩
  exact ⟨hapart, ⟨_, rfl, by decide, (hchanges _ rfl).2⟩, rfl, hpass _ hkeyed hmade _ rfl⟩

/-- Hyphens in names let two trees fight over one binding: both require it, renaming
the one into the other updates it, and a pass over the other one is refused to
create it. -/
theorem fought_over_by_hyphens :
    "team" ≠ "team-ops" ∧
      (editors "team").Requires ⟨"a", "foldertree-team-ops-edit"⟩ ∧
      (editors "team-ops").Requires ⟨"a", "foldertree-team-ops-edit"⟩ ∧
      (∃ changes, changesFrom (some (editors "team")) (editors "team-ops") = .ok changes ∧
        changes.map (fun c => (c.kind, c.bindingName)) =
          [(.update, "foldertree-team-ops-edit"), (.create, "foldertree-team-ops-ops-edit"),
            (.delete, "foldertree-team-edit")]) ∧
      ((editors "team-ops").syncBindings Cluster.api teamCluster).1 =
        .error (.refused (.alreadyExists "a/foldertree-team-ops-edit")) := by
  refine ⟨by decide, ⟨_, rfl, by decide⟩, ⟨_, rfl, by decide⟩, ⟨_, rfl, by decide⟩, ?_⟩
  rfl

end FolderTree

end FolderGrants
