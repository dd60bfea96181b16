import FolderGrants.Desired.Basic
import FolderGrants.Proofs.Inheritance
import FolderGrants.Proofs.MapLookup

/-!
# Emissions collapse to a desired set

Emissions with one key have to give the same grant, and then the first of
them stands for all.  Giving the same grant is an equivalence, so it does not
matter that each emission is only compared with the first one of its key.

* `DesiredSet.Collapses` — what a desired set has to do with emissions;
* `FolderTree.desired_eq_ok_iff` — adding emissions one by one gives the set
  they collapse to, if there is one;
* `FolderTree.desired_computes_inheritance` — the desired set of a tree, seen
  through the inheritance relation.
-/

namespace FolderGrants

namespace Template

theorem sameGrant_refl (a : Template) : a.sameGrant a = true :=
  (sameGrant_iff a a).2 ⟨rfl, fun _ => Iff.rfl⟩

theorem sameGrant_symm {a b : Template} (h : a.sameGrant b = true) : b.sameGrant a = true := by
  obtain ⟨hrole, hsubjects⟩ := (sameGrant_iff a b).1 h
  exact (sameGrant_iff b a).2 ⟨hrole.symm, fun s => (hsubjects s).symm⟩

theorem sameGrant_trans {a b c : Template} (hab : a.sameGrant b = true)
    (hbc : b.sameGrant c = true) : a.sameGrant c = true := by
  obtain ⟨hrole, hsubjects⟩ := (sameGrant_iff a b).1 hab
  obtain ⟨hrole', hsubjects'⟩ := (sameGrant_iff b c).1 hbc
  exact (sameGrant_iff a c).2
    ⟨hrole.trans hrole', fun s => (hsubjects s).trans (hsubjects' s)⟩

end Template

/-- The key under which an emission asks for its binding. -/
def Emission.key (b : Builder) (e : Emission) : BindingKey :=
  ⟨e.ns, Binding.nameFor b.tree e.template.name⟩

/-- What is built for a namespace lies there, under the name for the template. -/
@[simp] theorem Builder.build_key (b : Builder) (t : Template) (ns : String) :
    (b.build t ns).key = ⟨ns, Binding.nameFor b.tree t.name⟩ := rfl

/-- A grant has the key of its emission. -/
@[simp] theorem Emission.grant_key (b : Builder) (e : Emission) :
    (e.grant b).binding.key = e.key b := rfl

namespace DesiredSet

variable {b : Builder} {es done : List Emission} {e : Emission} {set set' : DesiredSet}

/-- What adding one emission can do: a new key gets its grant, a key that has
the same grant is left alone. -/
theorem add_eq_ok_iff :
    add b set e = .ok set' ↔
      set.get? (e.key b) = none ∧ set' = set.insert (e.key b) (e.grant b) ∨
      ∃ first, set.get? (e.key b) = some first ∧
        first.template.sameGrant e.template = true ∧ set' = set := by
  simp only [add, Emission.grant_key]
  cases hget : set.get? (e.key b) with
  | none => simpa using eq_comm
  | some first =>
      by_cases hsame : first.template.sameGrant e.template = true
      · simpa [hsame] using eq_comm
      · simp [hsame]

/-- Emissions are added one after the other. -/
theorem addAll_cons_eq_ok_iff {rest : List Emission} :
    addAll b (e :: rest) set = .ok set' ↔
      ∃ mid, add b set e = .ok mid ∧ addAll b rest mid = .ok set' := by
  simp only [addAll]
  cases add b set e with
  | error c => simp [bind, Except.bind]
  | ok mid => simp [bind, Except.bind]

/-- A desired set holds, at each key, the grant of the first emission with that
key, and all emissions with one key give the same grant. -/
structure Collapses (b : Builder) (es : List Emission) (set : DesiredSet) : Prop where
  get?_eq : ∀ k, set.get? k = (es.find? fun e => e.key b = k).map (Emission.grant b)
  same : ∀ e ∈ es, ∀ e' ∈ es, e.key b = e'.key b → e.template.sameGrant e'.template = true

/-- Where nothing is emitted, nothing is granted. -/
theorem collapses_nil : Collapses b [] .empty where
  get?_eq _ := rfl
  same _ h := by cases h

/-- A grant in the set is the grant of an emission with that key. -/
theorem Collapses.exists_emission (h : Collapses b es set) {k : BindingKey} {g : Grant}
    (hg : set.get? k = some g) : ∃ e ∈ es, e.key b = k ∧ g = e.grant b := by
  rw [h.get?_eq, Option.map_eq_some_iff] at hg
  obtain ⟨e, hfind, rfl⟩ := hg
  exact ⟨e, List.mem_of_find?_eq_some hfind, by simpa using List.find?_some hfind, rfl⟩

/-- Each emission finds its key taken by a grant that is the same as its own. -/
theorem Collapses.exists_grant (h : Collapses b es set) (he : e ∈ es) :
    ∃ g, set.get? (e.key b) = some g ∧ g.template.sameGrant e.template = true := by
  have hsome : (es.find? fun e' => e'.key b = e.key b).isSome := by
    rw [List.find?_isSome]
    exact ⟨e, he, by simp⟩
  obtain ⟨first, hfirst⟩ := Option.isSome_iff_exists.1 hsome
  refine ⟨first.grant b, by rw [h.get?_eq, hfirst]; rfl, ?_⟩
  exact h.same _ (List.mem_of_find?_eq_some hfirst) _ he (by simpa using List.find?_some hfirst)

/-- Emissions collapse to one set only. -/
theorem Collapses.unique (h : Collapses b es set) (h' : Collapses b es set') : set = set' :=
  OrderedMap.ext_get? fun k => (h.get?_eq k).trans (h'.get?_eq k).symm

/-- The first emission of a key, after one more emission. -/
theorem Collapses.find?_snoc (h : Collapses b done set) (k : BindingKey) :
    ((done ++ [e]).find? fun e' => e'.key b = k).map (Emission.grant b) =
      (set.get? k).or (if e.key b = k then some (e.grant b) else none) := by
  rw [List.find?_append, h.get?_eq]
  by_cases hk : e.key b = k <;> cases done.find? fun e' => e'.key b = k <;> simp [hk]

/-- One more emission agrees with those before it if it agrees with one of its
key, or if there is none. -/
theorem Collapses.same_snoc (h : Collapses b done set)
    (hlast : ∀ e' ∈ done, e'.key b = e.key b → e'.template.sameGrant e.template = true) :
    ∀ e₁ ∈ done ++ [e], ∀ e₂ ∈ done ++ [e], e₁.key b = e₂.key b →
      e₁.template.sameGrant e₂.template = true := by
  intro e₁ h₁ e₂ h₂ hkey
  simp only [List.mem_append, List.mem_singleton] at h₁ h₂
  rcases h₁ with h₁ | rfl <;> rcases h₂ with h₂ | rfl
  · exact h.same _ h₁ _ h₂ hkey
  · exact hlast _ h₁ hkey
  · exact Template.sameGrant_symm (hlast _ h₂ hkey.symm)
  · exact Template.sameGrant_refl _

/-- An emission with a new key adds its grant. -/
theorem Collapses.snoc_new (h : Collapses b done set) (hnone : set.get? (e.key b) = none) :
    Collapses b (done ++ [e]) (set.insert (e.key b) (e.grant b)) where
  get?_eq k := by
    rw [h.find?_snoc]
    by_cases hk : k = e.key b
    · subst hk
      rw [OrderedMap.get?_insert_self, hnone, if_pos rfl, Option.none_or]
    · rw [OrderedMap.get?_insert_of_ne _ _ hk, if_neg (Ne.symm hk), Option.or_none]
  same := by
    refine h.same_snoc fun e' he' hkey => ?_
    obtain ⟨g, hg, -⟩ := h.exists_grant he'
    rw [hkey, hnone] at hg
    cases hg

/-- An emission that repeats the grant of its key adds nothing. -/
theorem Collapses.snoc_same (h : Collapses b done set) {first : Grant}
    (hfirst : set.get? (e.key b) = some first)
    (hsame : first.template.sameGrant e.template = true) : Collapses b (done ++ [e]) set where
  get?_eq k := by
    rw [h.find?_snoc]
    by_cases hk : e.key b = k
    · subst hk
      rw [hfirst, Option.some_or]
    · rw [if_neg hk, Option.or_none]
  same := by
    refine h.same_snoc fun e' he' hkey => ?_
    obtain ⟨g, hg, hsame'⟩ := h.exists_grant he'
    obtain rfl : first = g := Option.some.inj (hfirst.symm.trans (hkey ▸ hg))
    exact Template.sameGrant_trans (Template.sameGrant_symm hsame') hsame

/-- Adding one more emission succeeds exactly if the emissions still collapse,
and gives what they collapse to. -/
theorem Collapses.add_eq_ok_iff (h : Collapses b done set) :
    add b set e = .ok set' ↔ Collapses b (done ++ [e]) set' := by
  rw [DesiredSet.add_eq_ok_iff]
  constructor
  · intro h
    rcases h with ⟨hnone, rfl⟩ | ⟨first, hfirst, hsame, rfl⟩
    · exact h.snoc_new hnone
    · exact h.snoc_same hfirst hsame
  · intro h'
    cases hkey : set.get? (e.key b) with
    | none => exact .inl ⟨rfl, h'.unique (h.snoc_new hkey)⟩
    | some first =>
        obtain ⟨e', he', hkey', rfl⟩ := h.exists_emission hkey
        have hsame := h'.same e' (List.mem_append_left _ he') e (by simp) hkey'
        exact .inr ⟨_, rfl, hsame, h'.unique (h.snoc_same hkey hsame)⟩

/-- If emissions collapse, so do the first of them. -/
theorem Collapses.exists_snoc {rest : List Emission} (h : Collapses b done set)
    (h' : Collapses b (done ++ e :: rest) set') : ∃ mid, Collapses b (done ++ [e]) mid := by
  cases hkey : set.get? (e.key b) with
  | none => exact ⟨_, h.snoc_new hkey⟩
  | some first =>
      obtain ⟨e', he', hkey', rfl⟩ := h.exists_emission hkey
      exact ⟨_, h.snoc_same hkey (h'.same e' (by simp [he']) e (by simp) hkey')⟩

/-- Adding further emissions succeeds exactly if all of them collapse, and gives
what they collapse to. -/
theorem Collapses.addAll_eq_ok_iff (h : Collapses b done set) :
    addAll b es set = .ok set' ↔ Collapses b (done ++ es) set' := by
  induction es generalizing done set with
  | nil =>
      rw [addAll, List.append_nil]
      constructor
      · intro hok
        exact Except.ok.inj hok ▸ h
      · intro h'
        rw [h.unique h']
  | cons e rest ih =>
      have hsplit : done ++ e :: rest = done ++ [e] ++ rest := by simp
      rw [addAll_cons_eq_ok_iff]
      constructor
      · intro h
        obtain ⟨mid, hadd, hrest⟩ := h
        have hmid := h.add_eq_ok_iff.1 hadd
        exact hsplit ▸ (ih hmid).1 hrest
      · intro h'
        obtain ⟨mid, hmid⟩ := h.exists_snoc h'
        exact ⟨mid, h.add_eq_ok_iff.2 hmid, (ih hmid).2 (hsplit ▸ h')⟩

end DesiredSet

namespace FolderTree

variable {t : FolderTree} {b : Builder} {set : DesiredSet}

/-- A tree has a desired set exactly if its emissions collapse to it. -/
theorem desired_eq_ok_iff :
    t.desired b = .ok set ↔ DesiredSet.Collapses b t.spec.emissions set :=
  DesiredSet.collapses_nil.addAll_eq_ok_iff

/-- **The desired set is the inheritance relation, collapsed.**  Its keys are
those of the related triples, each once; what stands at a key comes from a
related triple and is built from its template; and every other triple with
that key grants the same role to the same subjects. -/
theorem desired_computes_inheritance (h : t.desired b = .ok set) :
    set.keys.Nodup ∧
    (∀ k, k ∈ set.keys ↔
      ∃ f m ns, t.spec.Emits f m ns ∧ k = ⟨ns, Binding.nameFor b.tree m.name⟩) ∧
    ∀ k g, set.get? k = some g →
      g.ns = k.ns ∧ g.binding = b.build g.template k.ns ∧
      (∃ f, t.spec.Emits f g.template k.ns ∧ f.name = g.folder) ∧
      k = ⟨k.ns, Binding.nameFor b.tree g.template.name⟩ ∧
      ∀ f m ns, t.spec.Emits f m ns → k = ⟨ns, Binding.nameFor b.tree m.name⟩ →
        m.roleRef = g.template.roleRef ∧ ∀ s, s ∈ m.subjects ↔ s ∈ g.template.subjects := by
  have hset := desired_eq_ok_iff.1 h
  refine ⟨set.keys_nodup, fun k => ?_, fun k g hg => ?_⟩
  · rw [OrderedMap.mem_keys_iff]
    constructor
    · intro h
      obtain ⟨g, hg⟩ := h
      obtain ⟨e, he, rfl, -⟩ := hset.exists_emission hg
      obtain ⟨f, hemits, -⟩ := Spec.mem_emissions_iff.1 he
      exact ⟨f, e.template, e.ns, hemits, rfl⟩
    · intro h
      obtain ⟨f, m, ns, hemits, rfl⟩ := h
      have he : ⟨f.name, m, ns⟩ ∈ t.spec.emissions := Spec.mem_emissions_iff.2 ⟨f, hemits, rfl⟩
      obtain ⟨g, hg, -⟩ := hset.exists_grant he
      exact ⟨g, hg⟩
  · obtain ⟨e, he, rfl, rfl⟩ := hset.exists_emission hg
    obtain ⟨f, hemits, hname⟩ := Spec.mem_emissions_iff.1 he
    refine ⟨rfl, rfl, ⟨f, hemits, hname.symm⟩, rfl, ?_⟩
    intro f' m ns hemits' hkey
    have he' : ⟨f'.name, m, ns⟩ ∈ t.spec.emissions := Spec.mem_emissions_iff.2 ⟨f', hemits', rfl⟩
    exact (Template.sameGrant_iff _ _).1 (hset.same _ he' _ he hkey.symm)

/-- A tree in which a template is handed down through a grouping node to a
folder that has it too, next to a template that stays and a folder that stands
alone. -/
def platform : FolderTree where
  metadata := { name := some "platform", uid := some "uid-1" }
  spec :=
    { root := some ⟨"org", [⟨"teams", [⟨"api", []⟩]⟩]⟩
      folders :=
        [{ name := "org"
           templates :=
             [⟨"admin", [.group "ops"], .clusterRole "admin", some true⟩,
              ⟨"audit", [.user "eve"], .clusterRole "view", none⟩]
           namespaces := ["org-ns"] },
         { name := "api"
           templates := [⟨"admin", [.group "ops", .group "ops"], .clusterRole "admin", none⟩]
           namespaces := ["api-ns"] },
         { name := "sandbox"
           templates := [⟨"edit", [.user "dev"], .clusterRole "edit", some true⟩]
           namespaces := ["sandbox-ns"] }] }

theorem desired_computes_inheritance_platform :
    ∃ set, platform.desired (.unowned platform) = .ok set ∧
      set.keys = [⟨"api-ns", "foldertree-platform-admin"⟩, ⟨"org-ns", "foldertree-platform-admin"⟩,
        ⟨"org-ns", "foldertree-platform-audit"⟩, ⟨"sandbox-ns", "foldertree-platform-edit"⟩] ∧
      ∀ k, k ∈ set.keys ↔
        ∃ f m ns, platform.spec.Emits f m ns ∧ k = ⟨ns, Binding.nameFor "platform" m.name⟩ :=
  ⟨_, rfl, rfl, (desired_computes_inheritance (b := .unowned platform) rfl).2.1⟩

end FolderTree

end FolderGrants
